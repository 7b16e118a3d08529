import SelectBuilder.Proofs.Query.Run
import SelectBuilder.Proofs.Query.Statement

/-! Which leaf a failure comes from. A tree renders if all its leaves do, and fails with the first
one that does not, in the order of the text: a tree's own leaves, then those of its children, one
child after another. Empty children are not written, but they have no leaves that could fail. So no
join and no negation makes a tree render that fails by itself, and no operation makes a statement of
such a tree. -/
namespace SelectBuilder

variable {fields : FieldSet}

/-- A text is made if all leaves render by themselves, and fails with the first of them that does
not. -/
structure FailsWithLeaves (fields : FieldSet) (leaves : List Condition)
    (text : Except QueryError String) : Prop where
  isOk_iff : text.isOk = true ↔ ∀ c ∈ leaves, (c.render fields).isOk = true
  eq_error_iff : ∀ e, text = .error e ↔ Outcome.FirstFails (Condition.render fields) leaves e

theorem FailsWithLeaves.of_failure? {leaves : List Condition} {text : Except QueryError String}
    (h : Outcome.failure? text = leaves.findSome? fun c => Outcome.failure? (c.render fields)) :
    FailsWithLeaves fields leaves text where
  isOk_iff := by rw [Outcome.isOk_eq_all_of_failure? h, List.all_eq_true]
  eq_error_iff e := by
    rw [← Outcome.failure?_eq_some, h]
    exact Outcome.findSome?_eq_some_iff_firstFails

namespace Tree

def Renders (fields : FieldSet) (t : Tree Condition) : Prop :=
  (conditionsText fields t).isOk = true

theorem failsWithLeaves_conditionsText (fields : FieldSet) (t : Tree Condition) :
    FailsWithLeaves fields t.allLeaves (conditionsText fields t) :=
  .of_failure? (t.failure?_render (Condition.render fields))

theorem renders_iff (t : Tree Condition) :
    t.Renders fields ↔ ∀ c ∈ t.allLeaves, (c.render fields).isOk = true :=
  (t.failsWithLeaves_conditionsText fields).isOk_iff

theorem renders_combine_iff (mode : Connective) (a b : Tree Condition) :
    (combine mode a b).Renders fields ↔ a.Renders fields ∧ b.Renders fields := by
  simp only [renders_iff, (allLeaves_combine_perm mode a b).mem_iff, List.forall_mem_append]

theorem renders_not_iff (t : Tree Condition) : t.not.Renders fields ↔ t.Renders fields := by
  rw [renders_iff, renders_iff, allLeaves_not]

theorem renders_foldl_and_iff (t : Tree Condition) (trees : List (Tree Condition)) :
    (trees.foldl and t).Renders fields ↔ t.Renders fields ∧ ∀ s ∈ trees, s.Renders fields := by
  induction trees generalizing t with
  | nil => simp
  | cons s rest ih =>
    rw [List.foldl_cons, ih, and, renders_combine_iff, List.forall_mem_cons, and_assoc]

theorem renders_empty : (empty : Tree Condition).Renders fields := rfl

theorem renders_all_iff (trees : List (Tree Condition)) :
    (all trees).Renders fields ↔ ∀ t ∈ trees, t.Renders fields :=
  (renders_foldl_and_iff empty trees).trans (and_iff_right renders_empty)

end Tree

namespace Query

theorem Demand.renders_added_iff (d : Demand) : d.added.Renders fields ↔ d.tree.Renders fields := by
  unfold added
  split
  next => exact Tree.renders_not_iff d.tree
  next => rfl

theorem failsWithLeaves_sql (q : Query) :
    FailsWithLeaves q.model.fields (q.prefilters.allLeaves ++ q.filters.allLeaves) q.sql :=
  .of_failure? q.select.failure?_sql

theorem isOk_sql_iff (q : Query) :
    q.sql.isOk = true ↔ ∀ place, (q.conditions place).Renders q.model.fields := by
  rw [q.failsWithLeaves_sql.isOk_iff, List.forall_mem_append, ← Tree.renders_iff,
    ← Tree.renders_iff]
  constructor
  · rintro ⟨hprefilters, hfilters⟩ place
    cases place with
    | whereClause => exact hfilters
    | prewhereClause => exact hprefilters
  · intro h
    exact ⟨h .prewhereClause, h .whereClause⟩

theorem renders_conditions_run_iff (place : Place) (q : Query) (steps : List Step) :
    ((q.run steps).conditions place).Renders fields ↔
      (q.conditions place).Renders fields ∧ ∀ d ∈ demands place steps, d.tree.Renders fields := by
  rw [conditions_run, Tree.renders_foldl_and_iff, List.forall_mem_map]
  simp only [Demand.renders_added_iff]

theorem isOk_sql_run_iff (q : Query) (steps : List Step) :
    (q.run steps).sql.isOk = true ↔
      q.sql.isOk = true ∧ ∀ place, ∀ d ∈ demands place steps, d.tree.Renders q.model.fields := by
  simp only [isOk_sql_iff, model_run, renders_conditions_run_iff, forall_and]

end Query

/-- Trees and statements render exactly if all their leaves do and fail with the first leaf that
does not, so that joins, negations and operations keep every failure. -/
theorem failures_are_of_leaves :
    (∀ (mode : Connective) (negated : Bool) (leaves : List Condition)
      (children : List (Tree Condition)), (Tree.node mode negated leaves children).allLeaves =
          leaves ++ children.flatMap Tree.allLeaves) ∧
      (∀ (fields : FieldSet) (t : Tree Condition),
        FailsWithLeaves fields t.allLeaves (conditionsText fields t)) ∧
      (∀ (fields : FieldSet) (mode : Connective) (a b : Tree Condition),
        (Tree.combine mode a b).Renders fields ↔ a.Renders fields ∧ b.Renders fields) ∧
      (∀ (fields : FieldSet) (t : Tree Condition), t.not.Renders fields ↔ t.Renders fields) ∧
      (∀ (fields : FieldSet) (trees : List (Tree Condition)),
        (Tree.all trees).Renders fields ↔ ∀ t ∈ trees, t.Renders fields) ∧
      (∀ q : Query,
        FailsWithLeaves q.model.fields (q.prefilters.allLeaves ++ q.filters.allLeaves) q.sql) ∧
      ∀ (q : Query) (steps : List Query.Step), (q.run steps).sql.isOk = true ↔
        q.sql.isOk = true ∧ ∀ place, ∀ d ∈ Query.demands place steps,
        d.tree.Renders q.model.fields :=
  ⟨Tree.allLeaves_node, Tree.failsWithLeaves_conditionsText, fun _ => Tree.renders_combine_iff,
    fun _ => Tree.renders_not_iff, fun _ => Tree.renders_all_iff, Query.failsWithLeaves_sql,
    Query.isOk_sql_run_iff⟩

/-- Two fields that the model does not have, among empty trees under a disjunction, and a third one
that the statement would meet later: the first of the two decides, and stays in what is made of the
tree. -/
theorem failures_are_of_leaves_nested :
    let fields := Model.person.fields
    let tree := fun key => Tree.leaf (Condition.ofKey .builtin key (.value (.int 1)))
    let nested :=
      ((Tree.empty.not.or (tree "passport")).and ((tree "weight").or (tree "height").not)).not
    let q := ((Query.all .person).filter (tree "size")).prefilter nested
    let steps : List Query.Step := [.refine (.filter (tree "passport")), .refine (.exclude nested)]
    (conditionsText fields nested = .error (.fieldNotFound "person" "weight") ∧
        Outcome.FirstFails (Condition.render fields) nested.allLeaves
          (.fieldNotFound "person" "weight")) ∧
      (q.sql = .error (.fieldNotFound "person" "weight") ∧
        Outcome.FirstFails (Condition.render fields) (q.prefilters.allLeaves ++ q.filters.allLeaves)
          (.fieldNotFound "person" "weight")) ∧
      ¬ nested.not.Renders fields ∧ ¬ (Tree.combine .or (tree "passport") nested).Renders fields ∧
        ((Query.all .person).run steps).sql.isOk = false := by
  intro fields tree nested q steps
  obtain ⟨-, htree, hcombine, hnot, -, hquery, hrun⟩ := failures_are_of_leaves
  have htext : conditionsText fields nested = .error (.fieldNotFound "person" "weight") := rfl
  have hsql : q.sql = .error (.fieldNotFound "person" "weight") := rfl
  have hfails : ¬ nested.Renders fields := by
    rw [Tree.Renders, htext]
    exact Bool.false_ne_true
  have hasked : ⟨true, nested⟩ ∈ Query.demands .whereClause steps :=
    List.mem_cons_of_mem _ (List.mem_cons_self ..)
  refine ⟨⟨htext, ((htree fields nested).eq_error_iff _).mp htext⟩,
    ⟨hsql, ((hquery q).eq_error_iff _).mp hsql⟩, ?_, ?_, ?_⟩
  · exact mt (hnot fields nested).mp hfails
  · exact fun h => hfails ((hcombine fields .or (tree "passport") nested).mp h).2
  · exact Bool.eq_false_iff.mpr fun h =>
      hfails (((hrun (.all .person) steps).mp h).2 .whereClause _ hasked)

end SelectBuilder
