import SelectBuilder.Proofs.Condition.Parts
import SelectBuilder.Query.Select

/-! When a statement renders. Only the leaves of its conditions can fail, so that its window does
not decide it. -/
namespace SelectBuilder.Select

variable {fields : FieldSet}

theorem failure?_conditionsLine (keyword : String) (t : Tree Condition) :
    Outcome.failure? (conditionsLine fields keyword t) =
      t.allLeaves.findSome? fun c => Outcome.failure? (c.render fields) := by
  unfold conditionsLine
  split
  next h =>
    rw [Tree.allLeaves_of_isEmpty h]
    rfl
  next => exact (Outcome.failure?_bind_pure _ _).trans (Tree.failure?_render _ t)

/-- The first leaf that fails decides the failure of a statement, the conditions of PREWHERE coming
first. -/
theorem failure?_sql (s : Select) : Outcome.failure? (s.sql fields) =
    (s.prefilters.allLeaves ++ s.filters.allLeaves).findSome? fun c =>
      Outcome.failure? (c.render fields) := by
  have hlines : Outcome.failure? (s.sql fields) = Outcome.failure? (s.lines fields) :=
    Outcome.failure?_bind_pure _ _
  rw [hlines, List.findSome?_append, ← failure?_conditionsLine "PREWHERE",
    ← failure?_conditionsLine "WHERE", lines]
  exact Outcome.failure?_bind fun prefilters => Outcome.failure?_bind_pure _ _

theorem isOk_sql (s : Select) : (s.sql fields).isOk =
    (s.prefilters.allLeaves ++ s.filters.allLeaves).all fun c => (c.render fields).isOk :=
  Outcome.isOk_eq_all_of_failure? s.failure?_sql

end SelectBuilder.Select
