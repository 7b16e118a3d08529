import SelectBuilder.Proofs.Outcome
import SelectBuilder.Query.Aggregate

/-! Aggregations that operations lead to. Their GROUP BY clause names columns of the aggregation
only: it starts with the grouping, and an operation that replaces the names accepts nothing else. -/
namespace SelectBuilder

namespace Aggregate

/-- The aggregations that operations lead to, together with those that a page of one is fetched
with. -/
inductive Reachable : Aggregate → Prop where
  | start {q : Query} {grouping : List String} {calculated : List (String × String)}
      {a : Aggregate} :
      q.aggregate grouping calculated = .ok a → Reachable a
  | apply {a b : Aggregate} {s : Step} : Reachable a → a.apply s = .ok b → Reachable b
  | page {a : Aggregate} (limits : Limits) : Reachable a →
    Reachable (a.withBase (a.base.withLimits limits))

def Grouped (a : Aggregate) : Prop :=
  ∀ name ∈ a.groupNames, a.isColumn name = true

variable {a b : Aggregate}

/-- An operation that succeeds changes the query below, or the names of the GROUP BY clause, or asks
for totals. -/
theorem apply_eq_ok {s : Step} (h : a.apply s = .ok b) :
    (∃ refinement base, s = .refine refinement ∧ a.base.refine refinement = .ok base ∧
      b = a.withBase base) ∨
      (∃ names, s = .groupBy names ∧ (∀ name ∈ names, a.isColumn name = true) ∧
        b = { a with groupNames := names }) ∨
      (s = .totals ∧ b = a.totals) := by
  cases s with
  | refine refinement =>
    obtain ⟨base, hbase, h⟩ := Outcome.bind_eq_ok.mp h
    exact .inl ⟨refinement, base, rfl, hbase, (Except.ok.inj h).symm⟩
  | groupBy names =>
    change a.groupBy names = .ok b at h
    unfold groupBy at h
    split at h
    next => cases h
    next hnone =>
      have hcolumns : ∀ name ∈ names, a.isColumn name = true := by simpa using hnone
      exact .inr (.inl ⟨names, rfl, hcolumns, (Except.ok.inj h).symm⟩)
  | totals => exact .inr (.inr ⟨rfl, (Except.ok.inj h).symm⟩)
  | only names => cases h
  | aggregate grouping calculated => cases h

theorem grouped_start {q : Query} {grouping : List String} {calculated : List (String × String)}
    (h : q.aggregate grouping calculated = .ok a) : a.Grouped := by
  unfold Query.aggregate at h
  dsimp only at h
  split at h
  · cases h
  · obtain rfl := Except.ok.inj h
    intro name hname
    simp only [isColumn, List.contains_iff_mem.mpr hname, Bool.true_or]

theorem grouped_apply {s : Step} (ha : a.Grouped) (h : a.apply s = .ok b) : b.Grouped := by
  obtain ⟨refinement, base, -, -, rfl⟩ | ⟨names, -, hnames, rfl⟩ | ⟨-, rfl⟩ := apply_eq_ok h
  · exact ha
  · exact hnames
  · exact ha

theorem Reachable.grouped (h : a.Reachable) : a.Grouped := by
  induction h with
  | start h => exact grouped_start h
  | apply _ h ih => exact grouped_apply ih h
  | page _ _ ih => exact ih

/-- What holds of the grouping and of the calculated names holds of the names of the GROUP BY
clause. -/
theorem Grouped.forall_groupNames {P : String → Prop} (ha : a.Grouped)
    (hgrouping : ∀ name ∈ a.grouping, P name) (hcalculated : ∀ name ∈ a.calculated.names, P name) :
    ∀ name ∈ a.groupNames, P name := by
  intro name hname
  rcases Bool.or_eq_true_iff.mp (ha name hname) with h | h
  · exact hgrouping name (List.contains_iff_mem.mp h)
  · exact hcalculated name (Entries.mem_names h)

end Aggregate

end SelectBuilder
