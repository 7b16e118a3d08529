import SelectBuilder.Proofs.Outcome
import SelectBuilder.Proofs.Query.Run
import SelectBuilder.Query.Aggregate

/-! Operations in front of an aggregation and behind it. An aggregation keeps a query without its
fields and without FINAL, and an operation that both share does to what is kept what it does to the
query. So it does not matter on which side of the aggregation such operations stand, and what the
aggregation does not keep may be asked for or not. -/
namespace SelectBuilder

/-- The same result, or no result on both sides. -/
def Agree {α : Type} (x y : Except QueryError α) : Prop :=
  x.toOption = y.toOption

theorem Agree.bind {α β : Type} {x y : Except QueryError α} (h : Agree x y)
    (f : α → Except QueryError β) :
    Agree (x >>= f) (y >>= f) := by
  cases x <;> cases y <;> cases h <;> rfl

namespace Query

def applyAll (q : Query) (steps : List Step) : Except QueryError Query :=
  steps.foldlM apply q

def refineAll (q : Query) (refinements : List Refinement) : Except QueryError Query :=
  refinements.foldlM refine q

end Query

namespace Aggregate

def refineAll (a : Aggregate) (refinements : List Query.Refinement) : Except QueryError Aggregate :=
  refinements.foldlM refine a

def step (a : Aggregate) (s : Step) : Aggregate :=
  match a.apply s with
  | .ok b => b
  | .error _ => a

def run (a : Aggregate) (steps : List Step) : Aggregate :=
  steps.foldl step a

end Aggregate

namespace Query

variable {grouping : List String} {calculated : Entries String}

/-- What is left of a query in an aggregation of it. -/
def grouped (grouping : List String) (calculated : Entries String) (q : Query) : Aggregate :=
  ⟨q.plain, grouping, calculated, grouping, false⟩

theorem refine_plain (q : Query) (r : Refinement) : (q.refine r).map plain = q.plain.refine r := by
  cases r with
  | slice start stop =>
    simp only [refine, slice]
    cases Limits.ofBounds start stop <;> rfl
  | _ => rfl

theorem refine_grouped (q : Query) (r : Refinement) :
    (q.refine r).map (grouped grouping calculated) = (q.grouped grouping calculated).refine r := by
  have hbase : (q.grouped grouping calculated).base.refine r = (q.refine r).map plain :=
    (refine_plain q r).symm
  rw [Aggregate.refine, hbase]
  cases q.refine r <;> rfl

theorem refineAll_grouped (q : Query) (refinements : List Refinement) :
    (q.refineAll refinements).map (grouped grouping calculated) =
      (q.grouped grouping calculated).refineAll refinements :=
  Outcome.map_foldlM refine_grouped q refinements

theorem step_grouped (q : Query) (r : Refinement) :
    (q.grouped grouping calculated).step (.refine r) =
      (q.step (.refine r)).grouped grouping calculated := by
  have happly : (q.grouped grouping calculated).apply (.refine r) =
      (q.apply (.refine r)).map (grouped grouping calculated) := (refine_grouped q r).symm
  rw [Aggregate.step, happly, step]
  cases q.apply (.refine r) <;> rfl

theorem run_grouped (q : Query) (refinements : List Refinement) :
    (q.grouped grouping calculated).run (refinements.map .refine) =
      (q.run (refinements.map .refine)).grouped grouping calculated := by
  rw [Aggregate.run, run, List.foldl_map, List.foldl_map]
  exact List.foldl_hom (grouped grouping calculated) step_grouped

def Step.isUnkept : Step → Bool
  | .only _ | .final => true
  | .refine _ => false

theorem plain_of_isUnkept {q p : Query} {s : Step} (hs : s.isUnkept = true)
    (h : q.apply s = .ok p) :
    p.plain = q.plain := by
  cases s with
  | refine r => cases hs
  | only names =>
    obtain rfl := Except.ok.inj h
    rfl
  | final =>
    simp only [apply, final] at h
    split_ifs at h
    obtain rfl := Except.ok.inj h
    rfl

/-- What is left of a query after an operation depends on what was left of it before. -/
theorem apply_plain (q : Query) (s : Step) :
    (q.apply s).map plain = (q.plain.apply s).map plain := by
  cases s with
  | refine r =>
    have hplain : (q.plain.refine r).map plain = q.plain.plain.refine r := refine_plain q.plain r
    exact (refine_plain q r).trans hplain.symm
  | only names => rfl
  | final =>
    have hmodel : q.plain.model = q.model := rfl
    simp only [apply, final, hmodel]
    split_ifs <;> rfl

theorem applyAll_plain {q p : Query} (h : q.plain = p.plain) (steps : List Step) :
    (q.applyAll steps).map plain = (p.applyAll steps).map plain := by
  have hview : ∀ q : Query, (q.applyAll steps).map plain =
      steps.foldlM (fun p s => (p.apply s).map plain) q.plain :=
        fun q => Outcome.map_foldlM apply_plain q steps
  rw [hview, hview, h]

section Aggregations

variable {columns : List (String × String)}

theorem aggregate_eq_error (h : (Entries.ofList columns).isEmpty = true) (q : Query)
    (grouping : List String) :
    q.aggregate grouping columns = .error (.invalidArgument .nothingCalculated) :=
  if_pos h

theorem aggregate_eq_ok (h : (Entries.ofList columns).isEmpty = false) (q : Query)
    (grouping : List String) :
    q.aggregate grouping columns = .ok (q.grouped grouping (Entries.ofList columns)) :=
  if_neg (Bool.eq_false_iff.mp h)

/-- An aggregation looks at nothing that it does not keep. -/
theorem bind_aggregate (x : Except QueryError Query) (grouping : List String) :
    (x >>= fun q => q.aggregate grouping columns) = x.map plain >>= fun q =>
      q.aggregate grouping columns := by
  cases x <;> rfl

theorem agree_refineAll (q : Query) (grouping : List String) (refinements : List Refinement) :
    Agree (q.refineAll refinements >>= fun p => p.aggregate grouping columns)
      (q.aggregate grouping columns >>= fun a => a.refineAll refinements) := by
  cases h : (Entries.ofList columns).isEmpty with
  | true =>
    simp only [aggregate_eq_error h]
    cases q.refineAll refinements <;> rfl
  | false =>
    let group := grouped grouping (Entries.ofList columns)
    have hgroup : (q.refineAll refinements >>= fun p => .ok (group p)) =
        (q.refineAll refinements).map group := by
      cases q.refineAll refinements <;> rfl
    simp only [aggregate_eq_ok h]
    exact congrArg Except.toOption (hgroup.trans (q.refineAll_grouped refinements))

theorem aggregate_run (q : Query) (grouping : List String) (refinements : List Refinement) :
    (q.run (refinements.map .refine)).aggregate grouping columns =
      (q.aggregate grouping columns).map fun a => a.run (refinements.map .refine) := by
  cases h : (Entries.ofList columns).isEmpty with
  | true =>
    rw [aggregate_eq_error h, aggregate_eq_error h]
    rfl
  | false =>
    rw [aggregate_eq_ok h, aggregate_eq_ok h, ← run_grouped]
    rfl

/-- What an aggregation does not keep may be asked for in front of it or not. -/
theorem aggregate_of_isUnkept (q : Query) (grouping : List String) {before : List Step} {s : Step}
    (after : List Step) (hs : s.isUnkept = true)
    (hok : ∀ p, q.applyAll before = .ok p → (p.apply s).isOk = true) :
    (q.applyAll (before ++ s :: after) >>= fun p => p.aggregate grouping columns) =
      q.applyAll (before ++ after) >>= fun p => p.aggregate grouping columns := by
  rw [bind_aggregate, bind_aggregate (q.applyAll (before ++ after)), applyAll, applyAll,
    List.foldlM_append, List.foldlM_append]
  change ((q.applyAll before >>= fun p => p.applyAll (s :: after)).map plain >>= _) =
    (q.applyAll before >>= fun p => p.applyAll after).map plain >>= _
  cases hbefore : q.applyAll before with
  | error e => rfl
  | ok p =>
    obtain ⟨next, hnext⟩ := Outcome.isOk_iff.mp (hok p hbefore)
    have hafter : p.applyAll (s :: after) = next.applyAll after := by
      rw [applyAll, List.foldlM_cons, hnext]
      rfl
    have hplain := applyAll_plain (plain_of_isUnkept hs hnext) after
    change ((p.applyAll (s :: after)).map plain >>= _) = (p.applyAll after).map plain >>= _
    rw [hafter, hplain]

end Aggregations

/-- Operations that queries share with aggregations may stand in front of the aggregation or behind
it, be it that the first one that fails ends them or that those that fail are passed over; and in
front of it the fields and an accepted FINAL change nothing. -/
theorem aggregate_among_operations (q : Query) (grouping : List String)
    (calculated : List (String × String)) :
    (∀ refinements : List Refinement,
      let before := q.refineAll refinements >>= fun p => p.aggregate grouping calculated
      let behind := q.aggregate grouping calculated >>= fun a => a.refineAll refinements
      Agree before behind ∧ Agree (before >>= Aggregate.sql) (behind >>= Aggregate.sql)) ∧
      (∀ refinements : List Refinement,
        (q.run (refinements.map .refine)).aggregate grouping calculated =
          (q.aggregate grouping calculated).map fun a => a.run (refinements.map .refine)) ∧
      ∀ (before : List Step) (s : Step) (after : List Step), s.isUnkept = true →
        (∀ p, q.applyAll before = .ok p → (p.apply s).isOk = true) →
        (q.applyAll (before ++ s :: after) >>= fun p => p.aggregate grouping calculated) =
          q.applyAll (before ++ after) >>= fun p => p.aggregate grouping calculated := by
  refine ⟨fun refinements => ?_, fun refinements => q.aggregate_run grouping refinements,
    fun before s after hs hok => q.aggregate_of_isUnkept grouping after hs hok⟩
  have hagree : Agree (q.refineAll refinements >>= fun p => p.aggregate grouping calculated)
      (q.aggregate grouping calculated >>= fun a => a.refineAll refinements) :=
        q.agree_refineAll grouping refinements
  exact ⟨hagree, hagree.bind Aggregate.sql⟩

/-- Conditions, a window and an order on either side of an aggregation; fields and FINAL in front of
it are left out. -/
theorem aggregate_among_operations_visits :
    let q := all .visit
    let signed := Tree.leaf (Condition.ofKey .builtin "sign__gt" (.value (.int 0)))
    let refinements := [.filter signed, .slice (.included 2) (.excluded 5), .orderBy ["-n"]]
    let text :=
      "SELECT id, count() AS n\nFROM `visit`\nWHERE sign > 0\nGROUP BY `id`\nORDER BY n DESC\nLIMIT 2, 3"
    let before := q.refineAll refinements >>= fun p => p.aggregate ["id"] [("n", "count()")]
    let behind := q.aggregate ["id"] [("n", "count()")] >>= fun a => a.refineAll refinements
    Agree before behind ∧ before >>= Aggregate.sql = .ok text ∧
      behind >>= Aggregate.sql = .ok text ∧
      (∀ p, q.applyAll [.only ["id"]] = .ok p → (p.apply .final).isOk = true) ∧
        (q.applyAll [.only ["id"], .final, .refine (.filter signed)] >>= fun p =>
        p.aggregate ["id"] [("n", "count()")]) =
          q.applyAll [.only ["id"], .refine (.filter signed)] >>= fun p =>
          p.aggregate ["id"] [("n", "count()")] := by
  intro q signed refinements text before behind
  obtain ⟨hsides, -, hunkept⟩ := aggregate_among_operations q ["id"] [("n", "count()")]
  have hok : ∀ p, q.applyAll [.only ["id"]] = .ok p → (p.apply .final).isOk = true := by
    intro p hp
    obtain rfl := Except.ok.inj hp
    rfl
  have hsql : (before >>= Aggregate.sql).toOption = some text := by decide +kernel
  have hbefore : before >>= Aggregate.sql = .ok text := Outcome.toOption_eq_some.mp hsql
  have hbehind : behind >>= Aggregate.sql = .ok text :=
    Outcome.toOption_eq_some.mp ((hsides refinements).2.symm.trans hsql)
  have hfinal := hunkept [.only ["id"]] .final [.refine (.filter signed)] rfl hok
  exact ⟨(hsides refinements).1, hbefore, hbehind, hok, hfinal⟩

end Query

end SelectBuilder
