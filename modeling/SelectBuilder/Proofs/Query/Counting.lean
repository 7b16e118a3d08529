import SelectBuilder.Connection.Http
import SelectBuilder.Proofs.Condition.Parts
import SelectBuilder.Proofs.Query.Filters
import SelectBuilder.Proofs.Query.Statement

/-! What is read when a query is counted, against what is read when it is fetched. A query with a
window or without repetitions is counted as its own statement. Any other is counted by the name of
its table and its conditions: these agree with the clauses of the statement, but a table that is
read with FINAL is counted without. -/
namespace SelectBuilder

/-- Whether the clause of a tree holds. An empty tree has no clause, which leaves every row in. -/
def Tree.clauseHolds {α : Type} (v : α → Bool) (t : Tree α) : Bool :=
  t.clause?.all (·.holds v)

theorem Tree.clauseHolds_eq {α : Type} {t : Tree α} (ht : t.negated = false) (v : α → Bool) :
    t.clauseHolds v = t.holds v := by
  rw [Bool.eq_iff_iff, ← clause?_holds_iff ht, clauseHolds]
  exact Option.all_eq_true ..

/-- The rows that something is asked about. -/
@[ext]
structure Relation where
  /-- The table as a FROM clause names it. -/
  source : String
  /-- Whether a row is let through, given the conditions that it meets. -/
  passes : (Condition → Bool) → Bool
  distinct : Bool
  limits : Option Limits

def Select.relation (s : Select) : Relation where
  source := s.fromLine
  passes v := s.prefilters.clauseHolds v && s.filters.clauseHolds v
  distinct := s.distinct
  limits := s.limits

theorem Select.fromLine_eq_iff (s : Select) : s.fromLine = "FROM " ++ Text.identifier s.table ↔
    s.isFinal = false := by
  unfold fromLine
  cases s.isFinal with
  | false => simp
  | true =>
    refine iff_of_false (fun h => ?_) Bool.noConfusion
    have hlength := congrArg String.length h
    simp at hlength

/-- A number of rows that a source is asked for: those of a statement, or those of a table under
conditions. -/
inductive CountRequest where
  | statement (s : Select)
  | table (name : String) (conditions : Tree Condition)

namespace CountRequest

def sql (fields : FieldSet) : CountRequest → Except QueryError String
  | .statement s => do return DataSource.countStatement (← s.sql fields)
  | .table name conditions => do
    return HttpSource.countStatement name (← conditionsText fields conditions)

def relation : CountRequest → Relation
  | .statement s => s.relation
  | .table name conditions =>
    ⟨"FROM " ++ Text.identifier name, conditions.clause.holds, false, none⟩

def ask {m : Type → Type} [Monad m] {Row : Type} (fields : FieldSet) (source : DataSource m Row) :
    CountRequest → Run m UInt64
  | .statement s => do source.countRows (← Run.of (s.sql fields))
  | .table name conditions => do source.count name (← Run.of (conditionsText fields conditions))

/-- The FROM clause of a count by conditions is that of its relation. -/
theorem countStatement_eq_source (name text : String) (conditions : Tree Condition) :
    HttpSource.countStatement name text =
      "SELECT count() " ++ (table name conditions).relation.source ++ " WHERE " ++ text := by
  have hsource : "SELECT count() " ++ "FROM " = "SELECT count() FROM " := rfl
  unfold HttpSource.countStatement relation
  rw [← String.append_assoc, hsource]

end CountRequest

namespace Query

variable {m : Type → Type} [Monad m] {Row : Type}

def joined (q : Query) : Tree Condition :=
  q.filters.and q.prefilters

def countRequest (q : Query) : CountRequest :=
  if q.distinct || q.limits.isSome then .statement q.select else .table q.model.table q.joined

theorem count_eq_ask (q : Query) (source : DataSource m Row) :
    q.count source = q.countRequest.ask q.model.fields source := by
  unfold count countRequest
  split <;> rfl

section Runs

variable (model : Model) (steps : List Step)

/-- The two trees joined let through what both clauses let through. -/
theorem holds_joined (v : Condition → Bool) :
    let q := (all model).run steps
    q.joined.clause.holds v = (q.prefilters.clauseHolds v && q.filters.clauseHolds v) := by
  intro q
  have hfilters : q.filters.accepts .and = true := conditions_run_accepts model steps .whereClause
  have hnegated : q.filters.negated = false := conditions_run_negated model steps .whereClause
  have hprenegated : q.prefilters.negated = false :=
    conditions_run_negated model steps .prewhereClause
  rw [joined, Tree.holds_clause, Tree.holds_and_of_accepts hfilters, Tree.clauseHolds_eq hnegated,
    Tree.clauseHolds_eq hprenegated, Bool.and_comm]
  cases h : q.prefilters.isEmpty with
  | true => simp [Tree.holds_of_isEmpty h, hprenegated]
  | false => rfl

theorem relation_countRequest_iff :
    let q := (all model).run steps
    q.countRequest.relation = q.select.relation ↔
      (q.isFinal = true → (q.distinct || q.limits.isSome) = true) := by
  intro q
  unfold countRequest
  split
  next h => exact iff_of_true rfl fun _ => h
  next h =>
    obtain ⟨hdistinct, hlimits⟩ : q.distinct = false ∧ q.limits = none := by simpa using h
    have hsource : q.select.fromLine = "FROM " ++ Text.identifier q.model.table ↔
        q.isFinal = false :=
      q.select.fromLine_eq_iff
    rw [Relation.ext_iff]
    constructor
    · rintro ⟨hfrom, -⟩ hfinal
      exact Bool.noConfusion (hfinal.symm.trans (hsource.mp hfrom.symm))
    · intro hfinal
      have hstored : q.isFinal = false := Bool.eq_false_iff.mpr fun hf => h (hfinal hf)
      exact ⟨(hsource.mpr hstored).symm, funext (holds_joined model steps), hdistinct.symm,
        hlimits.symm⟩

/-- After a run, counting asks about the rows that fetching asks for, unless an accepted FINAL is
forgotten: the run has one, and neither asks for distinct rows nor for a window. A count by
conditions names the table as its relation does. -/
theorem count_reads_fetched_iff :
    (∀ {m : Type → Type} [Monad m] {Row : Type} (source : DataSource m Row),
        ((all model).run steps).count source =
          ((all model).run steps).countRequest.ask model.fields source) ∧
      (∀ (name : String) (conditions : Tree Condition),
        ((all model).run steps).countRequest = .table name conditions →
        ∀ text, HttpSource.countStatement name text =
          "SELECT count() " ++ ((all model).run steps).countRequest.relation.source ++
          " WHERE " ++ text) ∧
      (((all model).run steps).countRequest.relation = ((all model).run steps).select.relation ↔
        (model.engine.supportsFinal = true → Step.final ∈ steps → Step.refine .distinct ∈ steps ∨
          ∃ start stop limits, Step.refine (.slice start stop) ∈ steps ∧
            Limits.ofBounds start stop = .ok limits)) := by
  have hfinal : ((all model).run steps).isFinal = true ↔
      model.engine.supportsFinal = true ∧ Step.final ∈ steps := by
    rw [isFinal_run]
    simp [all, Step.isFinal_iff, and_comm]
  have hdistinct : ((all model).run steps).distinct = true ↔ Step.refine .distinct ∈ steps := by
    rw [distinct_run]
    simp [all, Step.isDistinct_iff]
  have hlimits : ((all model).run steps).limits.isSome = true ↔
      ∃ start stop limits, Step.refine (.slice start stop) ∈ steps ∧
        Limits.ofBounds start stop = .ok limits := by
    rw [limits_run]
    simp only [all, Option.isSome_none, Bool.false_or, List.any_eq_true, Option.isSome_iff_exists,
      Step.limits?_eq_some_iff]
    constructor
    · rintro ⟨_, hs, limits, start, stop, rfl, hlimits⟩
      exact ⟨start, stop, limits, hs, hlimits⟩
    · rintro ⟨start, stop, limits, hs, hlimits⟩
      exact ⟨_, hs, limits, start, stop, rfl, hlimits⟩
  refine ⟨fun source => ?_, fun name conditions hrequest text => ?_, ?_⟩
  · have hmodel : ((all model).run steps).model = model := model_run (all model) steps
    rw [count_eq_ask, hmodel]
  · rw [hrequest]
    exact CountRequest.countStatement_eq_source name text conditions
  · refine (relation_countRequest_iff model steps).trans ?_
    rw [hfinal, Bool.or_eq_true, hdistinct, hlimits, and_imp]

/-- A table that is fetched with FINAL and counted without. -/
theorem count_forgets_final :
    let q := (all .visit).run [.final]
    q.sql = .ok "SELECT *\nFROM `visit` FINAL" ∧
      q.countRequest.sql q.model.fields = .ok "SELECT count() FROM `visit` WHERE 1" ∧
      q.countRequest.relation ≠ q.select.relation := by
  refine ⟨rfl, rfl, fun h => ?_⟩
  have hfinal := (relation_countRequest_iff .visit [.final]).mp h rfl
  exact absurd hfinal (by decide)

/-- How the conditions of a count agree with the statement of a query. -/
structure CountAgrees (q : Query) : Prop where
  filters_conjunction : q.filters.mode = .and ∧ q.filters.negated = false
  prefilters_conjunction : q.prefilters.mode = .and ∧ q.prefilters.negated = false
  /-- Counting asks for the rows of the table under the two trees joined. -/
  asked : ∀ {m : Type → Type} [Monad m] {Row : Type} (source : DataSource m Row),
    q.count source = do
    source.count q.model.table (← Run.of (conditionsText q.model.fields q.joined))
  /-- The conditions are a conjunction of the parts of both trees, each as often as it is there. -/
  parts : ∀ text, conditionsText q.model.fields q.joined = .ok text →
    ∃ texts filterTexts prefilterTexts, text = Tree.joinParts .and texts ∧
      q.filters.parts.mapM (conditionsText q.model.fields) = .ok filterTexts ∧
      q.prefilters.parts.mapM (conditionsText q.model.fields) = .ok prefilterTexts ∧
      texts.Perm (filterTexts ++ prefilterTexts)
  written : conditionsText q.model.fields q.joined =
    q.joined.clause.write (Condition.render q.model.fields)
  clauses_written : ∀ place, ∀ c ∈ (q.conditions place).clause?,
    conditionsText q.model.fields (q.conditions place) = c.write (Condition.render q.model.fields)
  /-- The statement has a line for the conditions of either tree, and none for an empty one. -/
  statement : q.sql = q.clauseSql
  /-- What is written holds where both clauses of the statement do. -/
  truth : ∀ v, q.joined.clause.holds v = true ↔
    (∀ c ∈ q.prefilters.clause?, c.holds v = true) ∧ ∀ c ∈ q.filters.clause?, c.holds v = true
  failure : (∃ e, conditionsText q.model.fields q.joined = .error e) ↔ ∃ e, q.sql = .error e

theorem exists_parts_joined {q : Query} (hfilters : q.filters.accepts .and = true)
    (hprefilters : q.prefilters.accepts .and = true) {text : String}
    (h : conditionsText q.model.fields q.joined = .ok text) :
    ∃ texts filterTexts prefilterTexts, text = Tree.joinParts .and texts ∧
      q.filters.parts.mapM (conditionsText q.model.fields) = .ok filterTexts ∧
      q.prefilters.parts.mapM (conditionsText q.model.fields) = .ok prefilterTexts ∧
      texts.Perm (filterTexts ++ prefilterTexts) := by
  obtain ⟨hmode, hnegated⟩ := Tree.accepts_iff.mp (Tree.accepts_combine .and q.filters q.prefilters)
  rw [conditionsText, Tree.render_eq_parts] at h
  obtain ⟨texts, htexts, h⟩ := Outcome.bind_eq_ok.mp h
  have htext : text = Tree.joinParts .and texts := by
    rw [← Except.ok.inj h, joined, Tree.and, hmode, hnegated]
    rfl
  obtain ⟨both, hboth, hperm⟩ :=
    Outcome.mapM_perm (Tree.parts_combine_perm hfilters hprefilters) htexts
  rw [List.mapM_append] at hboth
  obtain ⟨filterTexts, hfilterTexts, hboth⟩ := Outcome.bind_eq_ok.mp hboth
  obtain ⟨prefilterTexts, hprefilterTexts, hboth⟩ := Outcome.bind_eq_ok.mp hboth
  obtain rfl := Except.ok.inj hboth
  exact ⟨texts, filterTexts, prefilterTexts, htext, hfilterTexts, hprefilterTexts, hperm⟩

theorem isOk_joined (q : Query) : (conditionsText q.model.fields q.joined).isOk = q.sql.isOk := by
  have hleaves :=
    (Tree.allLeaves_combine_perm .and q.filters q.prefilters).trans List.perm_append_comm
  rw [conditionsText, Tree.isOk_render, joined, Tree.and, hleaves.all_eq]
  exact q.select.isOk_sql.symm

/-- A query that operations lead to is counted by conditions that say what its clauses say, unless
it asks for distinct rows or for a window. -/
theorem count_agrees_with_clauses (hdistinct : ((all model).run steps).distinct = false)
    (hlimits : ((all model).run steps).limits = none) : ((all model).run steps).CountAgrees where
  filters_conjunction := Tree.accepts_iff.mp (conditions_run_accepts model steps .whereClause)
  prefilters_conjunction := Tree.accepts_iff.mp (conditions_run_accepts model steps .prewhereClause)
  asked source := by
    rw [count, if_neg (by simp [hdistinct, hlimits])]
    rfl
  parts _ := exists_parts_joined (conditions_run_accepts model steps .whereClause)
    (conditions_run_accepts model steps .prewhereClause)
  written := Tree.render_eq_write _ _
  clauses_written place c hc := by
    obtain ⟨-, rfl⟩ : (((all model).run steps).conditions place).isEmpty = false ∧
        (((all model).run steps).conditions place).clause = c := by simpa [Tree.clause?] using hc
    exact Tree.render_eq_write _ _
  statement := sql_eq_clauseSql _
  truth v := by
    rw [holds_joined, Bool.and_eq_true]
    exact and_congr (Option.all_eq_true ..) (Option.all_eq_true ..)
  failure := by rw [← Outcome.isOk_eq_false_iff, ← Outcome.isOk_eq_false_iff, isOk_joined]

/-- A disjunction, an excluded leaf and an excluded empty tree in one clause, and a leaf in the
other, which comes first when the clauses are joined. -/
theorem count_agrees_with_clauses_mixed :
    let leaf := fun key value => Tree.leaf (Condition.ofKey .builtin key (.value value))
    let steps := [
      Step.refine (.filter ((leaf "first_name" (.string "a")).or (leaf "last_name" (.string "b")))),
      .refine (.exclude .empty),
      .refine (.exclude (leaf "last_name" (.string "c"))),
      .refine (.prefilter (leaf "passport__gt" (.int 3)))]
    let q := (all .person).run steps
    q.distinct = false ∧ q.limits = none ∧
      conditionsText q.model.fields q.joined =
        .ok "(passport > 3) AND ((first_name = 'a') OR (last_name = 'b')) AND (NOT (last_name = 'c'))" ∧
      q.sql = .ok ("SELECT *\nFROM `person`\nPREWHERE passport > 3\n" ++
        "WHERE ((first_name = 'a') OR (last_name = 'b')) AND (NOT (last_name = 'c'))") ∧
      q.CountAgrees := by
  intro leaf steps q
  exact ⟨rfl, rfl, rfl, rfl, count_agrees_with_clauses .person steps rfl rfl⟩

end Runs

end Query

end SelectBuilder
