import SelectBuilder.Proofs.Query.Aggregation
import SelectBuilder.Proofs.Query.Grouping

/-! The columns of an aggregation, and what every aggregation has that operations lead to. It
calculates something and gives no name twice, its GROUP BY clause names its columns only, and the
query below it asks neither for fields nor for FINAL, since nothing that an aggregation accepts
could ask for either. -/
namespace SelectBuilder

/-- A column of a selection: a field, or an expression under a name. -/
inductive Column where
  | field (name : String)
  | calculated (name expression : String)
  deriving DecidableEq, Repr

namespace Column

def name : Column → String
  | .field name | .calculated name _ => name

def term : Column → String
  | .field name => name
  | .calculated name expression => expression ++ " AS " ++ name

end Column

namespace Aggregate

variable {a b : Aggregate}

def columns (a : Aggregate) : List Column :=
  a.grouping.map .field ++ a.calculated.toList.map fun (name, expression) =>
    .calculated name expression

theorem projection_eq (a : Aggregate) :
    a.projection = Text.commaJoin (a.columns.map Column.term) := by
  simp only [projection, columns, List.map_append, List.map_map]
  exact congrArg (fun names => Text.commaJoin (names ++ _)) (List.map_id a.grouping).symm

theorem names_columns (a : Aggregate) :
    a.columns.map Column.name = a.grouping ++ a.calculated.names := by
  simp only [columns, Entries.names, List.map_append, List.map_map]
  exact congrArg (· ++ _) (List.map_id a.grouping)

/-- What no operation takes from an aggregation. -/
structure WellFormed (a : Aggregate) : Prop where
  calculates : a.calculated.names ≠ []
  distinct : a.calculated.names.Nodup
  grouped : a.Grouped
  plain : a.base.plain = a.base

theorem wellFormed_start {q : Query} {grouping : List String} {calculated : List (String × String)}
    (h : q.aggregate grouping calculated = .ok a) : a.WellFormed := by
  have hgrouped : a.Grouped := grouped_start h
  cases hempty : (Entries.ofList calculated).isEmpty with
  | true =>
    rw [Query.aggregate_eq_error hempty] at h
    cases h
  | false =>
    rw [Query.aggregate_eq_ok hempty] at h
    obtain rfl := Except.ok.inj h
    have hcalculates : (Entries.ofList calculated).names ≠ [] := by
      simpa [Entries.isEmpty, Entries.names] using hempty
    exact ⟨hcalculates, Entries.nodup_names_ofList calculated, hgrouped, rfl⟩

theorem plain_refine {q p : Query} {r : Query.Refinement} (hq : q.plain = q)
    (h : q.refine r = .ok p) :
    p.plain = p := by
  have hplain : (q.refine r).map Query.plain = q.refine r := by rw [Query.refine_plain, hq]
  rw [h] at hplain
  exact Except.ok.inj hplain

theorem wellFormed_apply {s : Step} (ha : a.WellFormed) (h : a.apply s = .ok b) : b.WellFormed := by
  have hgrouped : b.Grouped := grouped_apply ha.grouped h
  obtain ⟨refinement, base, -, hbase, rfl⟩ | ⟨names, -, -, rfl⟩ | ⟨-, rfl⟩ := apply_eq_ok h
  · exact ⟨ha.calculates, ha.distinct, hgrouped, plain_refine ha.plain hbase⟩
  · exact ⟨ha.calculates, ha.distinct, hgrouped, ha.plain⟩
  · exact ⟨ha.calculates, ha.distinct, hgrouped, ha.plain⟩

theorem wellFormed_step (ha : a.WellFormed) (s : Step) : (a.step s).WellFormed := by
  unfold step
  split
  next b h => exact wellFormed_apply ha h
  next => exact ha

theorem WellFormed.run (ha : a.WellFormed) (steps : List Step) : (a.run steps).WellFormed := by
  induction steps generalizing a with
  | nil => exact ha
  | cons s rest ih => exact ih (wellFormed_step ha s)

/-- Every name in the GROUP BY clause is a column of the selection. -/
theorem WellFormed.mem_columns (ha : a.WellFormed) {name : String} (h : name ∈ a.groupNames) :
    name ∈ a.grouping ∨ name ∈ a.calculated.names :=
  (Bool.or_eq_true_iff.mp (ha.grouped name h)).imp List.contains_iff_mem.mp Entries.mem_names

/-- An aggregation that any operations lead to, those that fail passed over, calculates something
and under different names, groups by names of its columns, and has a query below that asks neither
for fields nor for FINAL. It never takes other fields and is never aggregated again. -/
theorem run_keeps_columns {q : Query} {grouping : List String} {calculated : List (String × String)}
    (h : q.aggregate grouping calculated = .ok a) (steps : List Step) :
    ((a.run steps).calculated.names ≠ [] ∧ (a.run steps).calculated.names.Nodup) ∧
      (∀ name ∈ (a.run steps).groupNames, name ∈ (a.run steps).grouping ∨
        name ∈ (a.run steps).calculated.names) ∧
      ((a.run steps).select.projection = Text.commaJoin ((a.run steps).columns.map Column.term) ∧
        ∀ name ∈ (a.run steps).select.groupBy, name ∈ (a.run steps).columns.map Column.name) ∧
      ((a.run steps).base.fields = [] ∧ (a.run steps).base.isFinal = false) ∧
      (∀ names, (a.run steps).apply (.only names) = .error (.unsupported .projection)) ∧
      ∀ grouping calculated,
        (a.run steps).apply (.aggregate grouping calculated) =
          .error (.unsupported .reaggregation) := by
  have hrun : (a.run steps).WellFormed := (wellFormed_start h).run steps
  have hfields : (a.run steps).base.fields = [] := (congrArg Query.fields hrun.plain).symm
  have hfinal : (a.run steps).base.isFinal = false := (congrArg Query.isFinal hrun.plain).symm
  refine ⟨⟨hrun.calculates, hrun.distinct⟩, fun name => hrun.mem_columns,
    ⟨projection_eq _, fun name hname => ?_⟩, ⟨hfields, hfinal⟩, fun _ => rfl, fun _ _ => rfl⟩
  rw [names_columns]
  exact List.mem_append.mpr (hrun.mem_columns hname)

/-- A query with fields and FINAL, a name that is calculated twice, and operations that are
refused. -/
theorem run_keeps_columns_visits :
    let q := (Query.all .visit).run [.only ["sign"], .final]
    let signed := Tree.leaf (Condition.ofKey .builtin "sign__gt" (.value (.int 0)))
    let steps := [.groupBy ["n"], .groupBy ["sign"], .only ["id"], .refine (.exclude signed),
      .aggregate [] [("m", "1")], .refine (.slice (.included 3) (.excluded 1)), .totals]
    let text :=
      "SELECT id, sum(sign) AS n\nFROM `visit`\nWHERE NOT (sign > 0)\nGROUP BY `n` WITH TOTALS"
    ∃ a, q.aggregate ["id"] [("n", "count()"), ("n", "sum(sign)")] = .ok a ∧
      (a.run steps).sql = .ok text ∧ (a.run steps).calculated.names.Nodup ∧
      (∀ name ∈ (a.run steps).select.groupBy, name ∈ (a.run steps).columns.map Column.name) ∧
      (a.run steps).base.fields = [] ∧ (a.run steps).base.isFinal = false ∧
      (a.run steps).apply (.only ["id"]) = .error (.unsupported .projection) := by
  intro q signed steps text
  have hstart : q.aggregate ["id"] [("n", "count()"), ("n", "sum(sign)")] =
      .ok (q.grouped ["id"] ⟨[("n", "sum(sign)")]⟩) := rfl
  obtain ⟨⟨-, hdistinct⟩, -, ⟨-, hcolumns⟩, ⟨hfields, hfinal⟩, honly, -⟩ :=
    run_keeps_columns hstart steps
  exact ⟨_, hstart, rfl, hdistinct, hcolumns, hfields, hfinal, honly ["id"]⟩

end Aggregate

end SelectBuilder
