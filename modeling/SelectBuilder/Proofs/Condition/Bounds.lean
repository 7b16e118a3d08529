import SelectBuilder.Condition.Registry
import SelectBuilder.Proofs.Condition.Members

/-! Range tests. With one bound a range test is the comparison with it, with two it is both
comparisons in one text and fails as the first of them that fails. How the bounds are spelled makes
no difference. -/
namespace SelectBuilder

open Outcome (failure?)

inductive Operand.Spans : Operand → Option Value → Option Value → Prop
  | range (low high : Option Value) : Spans (.range low high) low high
  | array (low high : Value) : Spans (.value (.array [low, high])) (some low) (some high)

namespace Operator

/-- Nothing bounds the side of the range: the bound is missing, null or the empty text. -/
def IsOpen (bound : Option Value) : Prop :=
  bound = none ∨ bound = some .null ∨ bound = some (.string "")

def IsBoundedBy (bound : Option Value) (v : Value) : Prop :=
  bound = some v ∧ ¬ IsOpen bound

theorem present_eq_none_iff {bound : Option Value} : present bound = none ↔ IsOpen bound := by
  cases bound with
  | none => simp [present, IsOpen]
  | some v => cases v <;> simp [present, IsOpen]

theorem present_eq_some_iff {bound : Option Value} {v : Value} :
    present bound = some v ↔ IsBoundedBy bound v := by
  rw [IsBoundedBy, ← present_eq_none_iff]
  constructor
  · intro h
    exact ⟨(Option.filter_eq_some_iff.mp h).1, by simp [h]⟩
  · rintro ⟨rfl, h⟩
    obtain ⟨w, hw⟩ := Option.ne_none_iff_exists'.mp h
    obtain rfl := Option.some.inj (Option.filter_eq_some_iff.mp hw).1
    exact hw

def atLeast : Operator := .comparison ">=" none

def atMost : Operator := .comparison "<=" none

variable {fields : FieldSet} {field : String} {operand : Operand} {low high : Option Value}
  {v w : Value}

theorem render_between (h : operand.Spans low high) :
    between.render fields field operand =
      betweenText fields field (present low) (present high) := by
  cases h <;> rfl

theorem render_side (symbol : String) :
    (comparison symbol none).render fields field (.value v) =
      (fields.literal field v).map (field ++ (" " ++ symbol ++ " ") ++ ·) := by
  have htext : comparisonText symbol none field = (field ++ (" " ++ symbol ++ " ") ++ ·) := by
    funext literal
    rw [comparisonText, ← String.append_assoc, ← String.append_assoc]
  rw [render_comparison, htext]

theorem render_atLeast :
    atLeast.render fields field (.value v) = (fields.literal field v).map (field ++ " >= " ++ ·) :=
  render_side ">="

theorem render_atMost :
    atMost.render fields field (.value v) = (fields.literal field v).map (field ++ " <= " ++ ·) :=
  render_side "<="

theorem betweenText_low :
    betweenText fields field (some v) none = atLeast.render fields field (.value v) :=
  render_atLeast.symm

theorem betweenText_high :
    betweenText fields field none (some v) = atMost.render fields field (.value v) :=
  render_atMost.symm

/-- The lower bound is read first. -/
theorem failure?_betweenText :
    failure? (betweenText fields field (some v) (some w)) =
      (failure? (atLeast.render fields field (.value v))).or
        (failure? (atMost.render fields field (.value w))) := by
  rw [render_atLeast, render_atMost, Outcome.failure?_map, Outcome.failure?_map]
  exact Outcome.failure?_bind fun _ => Outcome.failure?_bind_pure _ _

theorem betweenText_eq_ok {text : String} :
    betweenText fields field (some v) (some w) = .ok text ↔ ∃ a b, fields.literal field v = .ok a ∧
      fields.literal field w = .ok b ∧ text = field ++ " BETWEEN " ++ a ++ " AND " ++ b := by
  constructor
  · intro h
    obtain ⟨a, ha, h⟩ := Outcome.bind_eq_ok.mp h
    obtain ⟨b, hb, h⟩ := Outcome.bind_eq_ok.mp h
    exact ⟨a, b, ha, hb, (Except.ok.inj h).symm⟩
  · rintro ⟨a, b, ha, hb, rfl⟩
    exact Outcome.bind_eq_ok.mpr ⟨a, ha, Outcome.bind_eq_ok.mpr ⟨b, hb, rfl⟩⟩

/-- What a range test comes to, told by the comparisons with its bounds. -/
structure ComesFromSides (fields : FieldSet) (field : String) (low high : Option Value)
    (test : Except QueryError String) : Prop where
  neither : IsOpen low → IsOpen high → test = .error (.invalidArgument (.noBound field))
  onlyLow : ∀ v, IsBoundedBy low v → IsOpen high → test = atLeast.render fields field (.value v)
  onlyHigh : ∀ w, IsOpen low → IsBoundedBy high w → test = atMost.render fields field (.value w)
  failure : ∀ v w, IsBoundedBy low v → IsBoundedBy high w → failure? test =
    (failure? (atLeast.render fields field (.value v))).or
      (failure? (atMost.render fields field (.value w)))
  text : ∀ v w text, IsBoundedBy low v → IsBoundedBy high w → (test = .ok text ↔ ∃ a b,
    (fields.literal field v = .ok a ∧
      atLeast.render fields field (.value v) = .ok (field ++ " >= " ++ a)) ∧
      (fields.literal field w = .ok b ∧
        atMost.render fields field (.value w) = .ok (field ++ " <= " ++ b)) ∧
      text = field ++ " BETWEEN " ++ a ++ " AND " ++ b)

theorem comesFromSides (h : operand.Spans low high) :
    ComesFromSides fields field low high (between.render fields field operand) := by
  rw [render_between h]
  constructor
  case neither =>
    intro hlow hhigh
    rw [present_eq_none_iff.mpr hlow, present_eq_none_iff.mpr hhigh]
    rfl
  case onlyLow =>
    intro v hlow hhigh
    rw [present_eq_some_iff.mpr hlow, present_eq_none_iff.mpr hhigh, betweenText_low]
  case onlyHigh =>
    intro w hlow hhigh
    rw [present_eq_none_iff.mpr hlow, present_eq_some_iff.mpr hhigh, betweenText_high]
  case failure =>
    intro v w hlow hhigh
    rw [present_eq_some_iff.mpr hlow, present_eq_some_iff.mpr hhigh, failure?_betweenText]
  case text =>
    intro v w text hlow hhigh
    rw [present_eq_some_iff.mpr hlow, present_eq_some_iff.mpr hhigh, betweenText_eq_ok]
    constructor
    · rintro ⟨a, b, ha, hb, htext⟩
      exact ⟨a, b, ⟨ha, by rw [render_atLeast, ha]; rfl⟩,
        ⟨hb, by rw [render_atMost, hb]; rfl⟩, htext⟩
    · rintro ⟨a, b, ⟨ha, -⟩, ⟨hb, -⟩, htext⟩
      exact ⟨a, b, ha, hb, htext⟩

/-- A range test is told by the comparisons with its bounds, and it is the same test whether the
bounds are given as a range or as an array of two, where null stands for a bound that is missing. -/
theorem between_comes_from_sides (fields : FieldSet) (field : String) :
    (Registry.builtin.resolve? "between" = some between ∧
      Registry.builtin.resolve? "gte" = some atLeast ∧
        Registry.builtin.resolve? "lte" = some atMost) ∧
      (∀ operand low high, operand.Spans low high →
        ComesFromSides fields field low high (between.render fields field operand)) ∧
      ∀ low high, between.render fields field (.range low high) =
        between.render fields field (.value (.array [low.getD .null, high.getD .null])) := by
  refine ⟨⟨rfl, rfl, rfl⟩, fun operand low high h => comesFromSides h, fun low high => ?_⟩
  have hpresent : ∀ bound : Option Value, present (some (bound.getD .null)) = present bound := by
    intro bound
    cases bound <;> rfl
  rw [render_between (.range low high), render_between (.array _ _), hpresent, hpresent]

/-- An array with the empty text above, and a range of which the column refuses both bounds. -/
theorem between_comes_from_sides_passports :
    let fields := Model.person.fields
    let upwards := Operand.value (.array [.string "2", .string ""])
    let refused := Operand.range (some (.string "few")) (some (.string "many"))
    (upwards.Spans (some (.string "2")) (some (.string "")) ∧
      IsBoundedBy (some (.string "2")) (.string "2") ∧
        IsOpen (some (.string "")) ∧
        between.render fields "passport" upwards = .ok "passport >= 2") ∧
      refused.Spans (some (.string "few")) (some (.string "many")) ∧
        IsBoundedBy (some (.string "few")) (.string "few") ∧
        IsBoundedBy (some (.string "many")) (.string "many") ∧
        failure? (between.render fields "passport" refused) =
          some (.conversion "passport" (.unexpected "integer" (.string "few"))) := by
  intro fields upwards refused
  obtain ⟨-, hsides, -⟩ := between_comes_from_sides fields "passport"
  have hupwards : upwards.Spans (some (.string "2")) (some (.string "")) := .array _ _
  have htwo : IsBoundedBy (some (.string "2")) (.string "2") := present_eq_some_iff.mp rfl
  have hopen : IsOpen (some (.string "")) := present_eq_none_iff.mp rfl
  have hrefused : refused.Spans (some (.string "few")) (some (.string "many")) := .range _ _
  have hfew : IsBoundedBy (some (.string "few")) (.string "few") := present_eq_some_iff.mp rfl
  have hmany : IsBoundedBy (some (.string "many")) (.string "many") := present_eq_some_iff.mp rfl
  exact ⟨⟨hupwards, htwo, hopen, (hsides _ _ _ hupwards).onlyLow _ htwo hopen⟩,
    hrefused, hfew, hmany, (hsides _ _ _ hrefused).failure _ _ hfew hmany⟩

end Operator

end SelectBuilder
