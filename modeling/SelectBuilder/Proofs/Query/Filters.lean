import SelectBuilder.Proofs.Condition.Composition
import SelectBuilder.Proofs.Query.Run

/-! What the clauses of conditions demand of a row after a run of operations. Demands made with a
tree that has parts are all kept. A demand made with an empty tree may be lost, or turned into one
that no row meets, since rendering leaves empty children out whether they are negated or not. -/
namespace SelectBuilder

namespace Tree

variable {α : Type}

/-- The expression of a clause of conditions; an empty tree gives no clause. -/
def clause? (t : Tree α) : Option (Clause α) :=
  if t.isEmpty then none else some t.clause

theorem clause?_holds_iff {t : Tree α} (ht : t.negated = false) (v : α → Bool) :
    (∀ c ∈ t.clause?, c.holds v = true) ↔ t.holds v = true := by
  unfold clause?
  split
  next h => simp [holds_of_isEmpty h, ht]
  next => simp [holds_clause]

end Tree

namespace Query

section Clauses

/-- The line of a clause in a statement, with the text of its expression. Without an expression
there is no line. -/
def clauseLine (q : Query) (place : Place) : Except QueryError (List String) :=
  match (q.conditions place).clause? with
  | none => .ok []
  | some c => do return [place.keyword ++ " " ++ (← c.write (Condition.render q.model.fields))]

/-- A statement with its clauses of conditions as the texts of their expressions. -/
def clauseSql (q : Query) : Except QueryError String := do
  let prefilters ← q.clauseLine .prewhereClause
  let filters ← q.clauseLine .whereClause
  return "\n".intercalate ([q.select.selectLine, q.select.fromLine] ++ prefilters ++ filters ++
    q.select.orderByLine ++ q.select.limitLine)

theorem conditionsLine_eq (q : Query) (place : Place) :
    Select.conditionsLine q.model.fields place.keyword (q.conditions place) =
      q.clauseLine place := by
  unfold Select.conditionsLine clauseLine Tree.clause? conditionsText
  rw [Tree.render_eq_write]
  split <;> rfl

/-- Rendering a query writes the expressions of its clauses, and fails where a leaf in them does. -/
theorem sql_eq_clauseSql (q : Query) : q.sql = q.clauseSql := by
  have hprefilters := q.conditionsLine_eq .prewhereClause
  have hfilters := q.conditionsLine_eq .whereClause
  have hgrouping : q.select.groupByLine = [] := rfl
  rw [sql, Select.sql, Select.lines, clauseSql, ← hprefilters, ← hfilters]
  simp only [hgrouping, List.append_nil, bind_assoc, pure_bind]
  rfl

end Clauses

namespace Demand

/-- What a demand says: its tree, rendered on its own, holds, or does not hold if it is excluded. -/
def met (v : Condition → Bool) (d : Demand) : Bool :=
  d.excluded ^^ d.tree.clause.holds v

/-- An empty tree asks for what no row meets. The tree that is added to the conditions is an empty
child. -/
def isLost (d : Demand) : Bool :=
  d.tree.isEmpty && (d.excluded ^^ d.tree.negated)

/-- A negated empty tree is excluded, which every row meets. It becomes an empty child under a
negation. -/
def isInverted (d : Demand) : Bool :=
  d.tree.isEmpty && d.excluded && d.tree.negated

theorem not_met_of_isLost {d : Demand} (h : d.isLost = true) (v : Condition → Bool) :
    d.met v = false := by
  obtain ⟨he, hx⟩ := Bool.and_eq_true_iff.mp h
  rw [met, Tree.holds_clause, Tree.holds_of_isEmpty he]
  cases hd : d.excluded <;> simp_all

theorem met_of_isInverted {d : Demand} (h : d.isInverted = true) (v : Condition → Bool) :
    d.met v = true := by
  simp only [isInverted, Bool.and_eq_true] at h
  obtain ⟨⟨he, hx⟩, hn⟩ := h
  rw [met, Tree.holds_clause, Tree.holds_of_isEmpty he, hx, hn]
  rfl

theorem added_holds (d : Demand) (v : Condition → Bool) :
    (d.added.isEmpty || d.added.holds v) = ((d.met v || d.isLost) && !d.isInverted) := by
  rw [met, Tree.holds_clause, isLost, isInverted, added]
  cases hx : d.excluded with
  | false =>
    cases he : d.tree.isEmpty with
    | false => simp [he]
    | true => cases hn : d.tree.negated <;> simp [he, hn, Tree.holds_of_isEmpty he]
  | true =>
    simp only [↓reduceIte, Tree.isEmpty_not, Tree.holds_not]
    cases he : d.tree.isEmpty with
    | false => simp
    | true => cases hn : d.tree.negated <;> simp [hn, Tree.holds_of_isEmpty he]

end Demand

variable (model : Model) (steps : List Step) (place : Place) (v : Condition → Bool)

/-- The conditions that a run leaves hold where each demand is met or lost and none is inverted. -/
theorem conditions_run_holds :
    (((all model).run steps).conditions place).holds v =
      (demands place steps).all fun d => (d.met v || d.isLost) && !d.isInverted := by
  have hstart : (all model).conditions place = .empty := by cases place <;> rfl
  rw [conditions_run, hstart, Tree.holds_foldl_and rfl, Tree.holds_empty, Bool.true_and,
    List.all_map]
  exact congrArg (List.all _) (funext fun d => d.added_holds v)

theorem conditions_run_accepts :
    (((all model).run steps).conditions place).accepts .and = true := by
  have hstart : ((all model).conditions place).accepts .and = true := by cases place <;> rfl
  rw [conditions_run]
  exact Tree.accepts_foldl_and hstart _

theorem conditions_run_negated : (((all model).run steps).conditions place).negated = false :=
  (Tree.accepts_iff.mp (conditions_run_accepts model steps place)).2

section Demands

variable {ds : List Demand} {v : Condition → Bool}

def RestMet (v : Condition → Bool) (ds : List Demand) : Prop :=
  ∀ d ∈ ds, d.isLost = false → d.isInverted = false → d.met v = true

theorem forall_met_iff :
    (∀ d ∈ ds, d.met v = true) ↔ RestMet v ds ∧ ¬ ∃ d ∈ ds, d.isLost = true := by
  constructor
  · intro h
    refine ⟨fun d hd _ _ => h d hd, fun ⟨d, hd, hl⟩ => ?_⟩
    exact Bool.noConfusion ((h d hd).symm.trans (Demand.not_met_of_isLost hl v))
  · rintro ⟨hrest, hnone⟩ d hd
    have hl : d.isLost = false := Bool.eq_false_iff.mpr fun hl => hnone ⟨d, hd, hl⟩
    cases hi : d.isInverted with
    | true => exact Demand.met_of_isInverted hi v
    | false => exact hrest d hd hl hi

theorem forall_written_iff :
    (∀ d ∈ ds, ((d.met v || d.isLost) && !d.isInverted) = true) ↔
      RestMet v ds ∧ ¬ ∃ d ∈ ds, d.isInverted = true := by
  constructor
  · intro h
    refine ⟨fun d hd hl _ => ?_, fun ⟨d, hd, hi⟩ => ?_⟩
    · simpa [hl] using (Bool.and_eq_true_iff.mp (h d hd)).1
    · simpa [hi] using h d hd
  · rintro ⟨hrest, hnone⟩ d hd
    have hi : d.isInverted = false := Bool.eq_false_iff.mpr fun hi => hnone ⟨d, hd, hi⟩
    cases hl : d.isLost with
    | true => simp [hi]
    | false => simp [hi, hrest d hd hl hi]

end Demands

/-- A run leaves a statement with the expressions of its clauses. That of the clause in a place
holds exactly where every filtered tree does and no excluded one, unless the remaining demands are
met and the run has a lost demand without an inverted one or the other way round. -/
theorem run_clause_holds_iff_met :
    ((all model).run steps).sql = ((all model).run steps).clauseSql ∧
    (((∀ c ∈ (((all model).run steps).conditions place).clause?, c.holds v = true) ↔
        ∀ d ∈ demands place steps, d.met v = true) ↔
      ((∀ d ∈ demands place steps, d.isLost = false → d.isInverted = false → d.met v = true) →
        ((∃ d ∈ demands place steps, d.isLost = true) ↔
          ∃ d ∈ demands place steps, d.isInverted = true))) := by
  refine ⟨sql_eq_clauseSql _, ?_⟩
  have hclause := Tree.clause?_holds_iff (conditions_run_negated model steps place) v
  rw [hclause, conditions_run_holds, List.all_eq_true, forall_written_iff, forall_met_iff]
  change _ ↔ (RestMet v (demands place steps) → _)
  by_cases hrest : RestMet v (demands place steps)
  · simp only [hrest, true_and, not_iff_not, true_imp_iff]
    exact iff_comm
  · simp only [hrest, false_and, false_imp_iff]

/-- Excluding the empty tree, which holds of every row, leaves every row in. -/
theorem exclude_empty_keeps_rows :
    let steps := [Step.refine (.exclude .empty)]
    (Tree.empty : Tree Condition).render (Condition.render Model.person.fields) = .ok "1" ∧
      ((all .person).run steps).sql = .ok "SELECT *\nFROM `person`\nWHERE 1" ∧
      ¬ ∀ v : Condition → Bool,
        (∀ c ∈ (((all .person).run steps).conditions .whereClause).clause?, c.holds v = true) ↔
          ∀ d ∈ demands .whereClause steps, d.met v = true := by
  refine ⟨rfl, rfl, fun h => ?_⟩
  have hclause : ∀ c ∈ (((all .person).run [.refine (.exclude .empty)]).conditions
      .whereClause).clause?, c.holds (fun _ => true) = true := by
    intro c hc
    cases hc
    rfl
  have hmet := (h fun _ => true).mp hclause ⟨true, .empty⟩ (List.mem_singleton_self _)
  exact absurd hmet (by decide)

end Query

end SelectBuilder
