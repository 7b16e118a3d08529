import SelectBuilder.Proofs.Column.Idempotence
import SelectBuilder.Proofs.Condition.Exchange

/-! Conditions on normalized values. A value that a column has made renders like the raw one that it
was made of, unless null is hidden in it, or a range test has a bound by the one and none by the
other. -/
namespace SelectBuilder

/-- The raw value, or the value that the column makes of it unless that one hides null. -/
def ColumnType.Renews (type : ColumnType) (raw v : Value) : Prop :=
  v = raw ∨ type.normalize Zone.utc raw = .ok v ∧ type.hidesNull v = false

namespace ColumnType

open Operator (KeepsSides)

variable {type : ColumnType} {raw v : Value}

theorem takesAlike_of_renews (h : type.Renews raw v) : type.TakesAlike raw v := by
  rcases h with rfl | ⟨h, hhides⟩
  · exact .inl rfl
  · exact .inr ⟨v, h, (normalize_eq_self_iff h).mpr hhides⟩

/-- A normalized value is accepted, and it stays as it is exactly if it hides no null; what is
normalized twice stays as it is. The columns for which every normalized value stays as it is are
those that do not confuse null with its text. And a value in place of the raw one that it was made
of, anywhere in an operand, makes the same condition if it hides no null, unless it is a bound of a
range test and only one of the two counts as a bound. -/
theorem normalize_again (type : ColumnType) :
    (∀ zone raw v, type.normalize zone raw = .ok v →
      type.normalize zone v = .ok (type.renewed v) ∧
        (type.normalize zone v = .ok v ↔ type.hidesNull v = false) ∧
        type.normalize zone (type.renewed v) = .ok (type.renewed v)) ∧
      (∀ zone, (∀ raw v, type.normalize zone raw = .ok v → type.normalize zone v = .ok v) ↔
        ¬ type.ConfusesNull) ∧
      ∀ (fields : FieldSet) field, fields.get field = .ok type →
        ∀ name operator, Registry.builtin.resolve? name = some operator →
        ∀ operand operand', operator.Relates type.Renews operand operand' →
          ((operator.render fields field operand').toOption =
            (operator.render fields field operand).toOption ↔
              KeepsSides fields field operator operand operand') ∧
            (KeepsSides fields field operator operand operand' →
              operator.render fields field operand' = operator.render fields field operand) := by
  refine ⟨fun zone raw v h => ?values, fun zone => normalize_idem_iff zone type,
    fun fields field hfield name operator hname operand operand' h => ?conditions⟩
  case values =>
    exact ⟨normalize_of_admits (admits_of_normalize h), normalize_eq_self_iff h,
      normalize_renewed h⟩
  case conditions =>
    exact Operator.render_takesAlike_iff hfield hname (h.imp fun _ _ => takesAlike_of_renews)

/-- Texts that are padded, hidden nulls among them; a list for a column that does not confuse null
with its text; and a range test. -/
theorem normalize_again_passports :
    let tags := ColumnType.array (.nullable (.fixedString 4))
    let raw := Value.array [.string "ab\x00", .string "\\N\x00", .string "\\N"]
    let v := Value.array [.string "ab", .string "\\N", .null]
    let fields := Model.person.fields
    let passport := ColumnType.nullable (.int .uint32)
    let listed (seven missing : Value) := Operand.value (.array [seven, missing])
    let range (one : Value) := Operand.range (some one) (some (.int 5))
    (tags.normalize Zone.utc raw = .ok v ∧ tags.normalize Zone.utc v = .ok (tags.renewed v) ∧
      tags.hidesNull v = true ∧ tags.normalize Zone.utc v ≠ .ok v) ∧
      (¬ passport.ConfusesNull ∧
        ∀ raw v, passport.normalize Zone.utc raw = .ok v → passport.normalize Zone.utc v = .ok v) ∧
      fields.get "passport" = .ok passport ∧
      (Operator.membership.Relates passport.Renews (listed (.string " 7") (.string "\\N"))
        (listed (.int 7) .null) ∧
        Operator.membership.render fields "passport" (listed (.string " 7") (.string "\\N")) =
          .ok "passport IN (7, \\N)" ∧
        Operator.membership.render fields "passport" (listed (.int 7) .null) =
          .ok "passport IN (7, \\N)") ∧
      Operator.between.Relates passport.Renews (range (.string "1")) (range (.int 1)) ∧
        KeepsSides fields "passport" .between (range (.string "1")) (range (.int 1)) ∧
        Operator.between.render fields "passport" (range (.int 1)) =
          Operator.between.render fields "passport" (range (.string "1")) := by
  intro tags raw v fields passport listed range
  have hv : tags.normalize Zone.utc raw = .ok v := rfl
  have hhides : tags.hidesNull v = true := rfl
  have hconfuses : ¬ passport.ConfusesNull := fun h => h.elim id id
  have hnormalized : passport.normalize Zone.utc (.string " 7") = .ok (Column.number 7) ∧
      passport.normalize Zone.utc (.string "1") = .ok (Column.number 1) := ⟨by rfl, by rfl⟩
  have hseven : passport.Renews (.string " 7") (.int 7) := .inr ⟨hnormalized.1, rfl⟩
  have hmissing : passport.Renews (.string "\\N") .null := .inr ⟨rfl, rfl⟩
  have hone : passport.Renews (.string "1") (.int 1) := .inr ⟨hnormalized.2, rfl⟩
  have hlisted : Operator.membership.Relates passport.Renews (listed (.string " 7") (.string "\\N"))
      (listed (.int 7) .null) :=
    .items rfl (.cons hseven (.cons hmissing .nil))
  have hrange : Operator.between.Relates passport.Renews (range (.string "1")) (range (.int 1)) :=
    .range (.some hone) (.some (.inl rfl))
  have hkeeps : KeepsSides fields "passport" .between (range (.string "1")) (range (.int 1)) := by
    rintro - _ _ _ _ ⟨⟩ ⟨⟩
    exact .inl ⟨Operator.isSome_present_eq_iff.mp rfl, .rfl⟩
  obtain ⟨htags, -, -⟩ := normalize_again tags
  obtain ⟨hagain, hself, -⟩ := htags Zone.utc raw v hv
  obtain ⟨-, hidem, hconditions⟩ := normalize_again passport
  obtain ⟨-, hmembers⟩ := hconditions fields "passport" rfl "in" _ rfl _ _ hlisted
  obtain ⟨-, hbetween⟩ := hconditions fields "passport" rfl "between" _ rfl _ _ hrange
  have hlists : KeepsSides fields "passport" .membership (listed (.string " 7") (.string "\\N"))
      (listed (.int 7) .null) := fun h => Operator.noConfusion h
  exact ⟨⟨hv, hagain, hhides, fun h => Bool.noConfusion (hhides.symm.trans (hself.mp h))⟩,
    ⟨hconfuses, (hidem Zone.utc).mpr hconfuses⟩, rfl, ⟨hlisted, rfl, hmembers hlists⟩, hrange,
    hkeeps, hbetween hkeeps⟩

/-- A text that only its padding tells from the text of the literal of null, and the number of a
variant with that text for a name, each become the text and then null. -/
theorem normalize_again_loses_text :
    let tag := ColumnType.nullable (.fixedString 4)
    let grade := ColumnType.nullable (.enumeration .enum8 [("\\N", 1)])
    let fields := FieldSet.ofList "tagged" [("tag", tag), ("grade", grade)]
    let padded := Value.string "\\N\x00"
    let text := Value.string "\\N"
    (¬ ∀ (type : ColumnType) raw v, type.normalize Zone.utc raw = .ok v →
      type.normalize Zone.utc v = .ok v) ∧
      (tag.normalize Zone.utc padded = .ok text ∧ tag.normalize Zone.utc text = .ok .null ∧
        Registry.equal.render fields "tag" (.value padded) = .ok "tag = \x27\\\\N\x27" ∧
        Registry.equal.render fields "tag" (.value text) = .ok "tag IS NULL") ∧
      grade.normalize Zone.utc (.int 1) = .ok text ∧ grade.normalize Zone.utc text = .ok .null ∧
        Registry.equal.render fields "grade" (.value (.int 1)) = .ok "grade = \x27\\\\N\x27" ∧
        Registry.equal.render fields "grade" (.value text) = .ok "grade IS NULL" := by
  intro tag grade fields padded text
  have hpadded : tag.normalize Zone.utc padded = .ok text := rfl
  have htext : tag.normalize Zone.utc text = .ok .null := rfl
  refine ⟨fun hidem => ?_, ⟨hpadded, htext, rfl, rfl⟩, rfl, rfl, rfl, rfl⟩
  have hself := hidem tag padded text hpadded
  exact Value.noConfusion (Except.ok.inj (htext.symm.trans hself))

end ColumnType

end SelectBuilder
