import SelectBuilder.Condition.Registry
import SelectBuilder.Proofs.Column.Null
import SelectBuilder.Proofs.Condition.Members

/-! Tests for null. Equality and inequality turn into a test for null exactly for null and its
spelling on a nullable column; no other literal looks like the one of null. -/
namespace SelectBuilder.Operator

/-- The comparisons that have another form for null. -/
inductive NullTest where
  | isNull | isNotNull

namespace NullTest

def name : NullTest → String
  | isNull => "eq"
  | isNotNull => "ne"

def symbol : NullTest → String
  | isNull => "="
  | isNotNull => "!="

def form : NullTest → String
  | isNull => "IS NULL"
  | isNotNull => "IS NOT NULL"

theorem resolve?_name (test : NullTest) :
    Registry.builtin.resolve? test.name = some (.comparison test.symbol (some test.form)) := by
  cases test <;> rfl

theorem form_ne (test : NullTest) (field literal : String) :
    field ++ " " ++ test.symbol ++ " " ++ literal ≠ field ++ " " ++ test.form := by
  intro h
  have htext := congrArg String.toList h
  cases test <;> simp [symbol, form] at htext

end NullTest

/-- Raw null, or the text of its literal, on a nullable column. -/
def MeansNull (type : ColumnType) (raw : Value) : Prop :=
  (∃ inner, type = .nullable inner) ∧ (raw = .null ∨ raw = .string Value.nullLiteral)

theorem meansNull_iff {type : ColumnType} {raw : Value} :
    MeansNull type raw ↔ type.normalize Zone.utc raw = .ok .null := by
  rw [MeansNull, ColumnType.normalize_eq_null_iff, Column.isNullSpelling_iff]

/-- Equality that renders is a test for null exactly if the column is nullable and the value is null
or the text of its literal. Else it compares with the literal of the normalized value, which is not
the one of null; and if the value is the text of that literal, it is compared as a text in quotes.
The same holds for inequality. -/
theorem null_test_iff_meansNull (fields : FieldSet) (field : String) (type : ColumnType)
    (hfield : fields.get field = .ok type) (test : NullTest) (operator : Operator)
    (hname : Registry.builtin.resolve? test.name = some operator) (raw : Value) (text : String)
    (h : operator.render fields field (.value raw) = .ok text) :
    (text = field ++ " " ++ test.form ↔ MeansNull type raw) ∧
      (¬ MeansNull type raw → ∃ v literal, type.normalize Zone.utc raw = .ok v ∧
        type.literal true v = literal ∧
        text = field ++ " " ++ test.symbol ++ " " ++ literal ∧ literal ≠ Value.nullLiteral ∧
        (raw = .string Value.nullLiteral → literal = Text.quote Value.nullLiteral)) := by
  obtain rfl := Option.some.inj (test.resolve?_name.symm.trans hname)
  rw [render_comparison] at h
  obtain ⟨literal, hliteral, htext⟩ := Outcome.map_eq_ok.mp h
  obtain ⟨v, hv, rfl⟩ := (FieldSet.literal_eq_ok hfield).mp hliteral
  have hnull : MeansNull type raw ↔ type.literal true v = Value.nullLiteral := by
    rw [meansNull_iff, hv, Except.ok.injEq, ColumnType.literal_eq_nullLiteral_iff]
  by_cases hliteral : type.literal true v = Value.nullLiteral
  case pos =>
    have hform : text = field ++ " " ++ test.form := htext.symm.trans (if_pos hliteral)
    exact ⟨iff_of_true hform (hnull.mpr hliteral), fun h => absurd (hnull.mpr hliteral) h⟩
  case neg =>
    have hsymbol : text = field ++ " " ++ test.symbol ++ " " ++ type.literal true v :=
      htext.symm.trans (if_neg hliteral)
    have hform : text ≠ field ++ " " ++ test.form := hsymbol ▸ test.form_ne field _
    refine ⟨iff_of_false hform (hnull.not.mpr hliteral),
      fun hmeans => ⟨v, _, hv, rfl, hsymbol, hliteral, ?_⟩⟩
    rintro rfl
    have htype : ∀ inner, type ≠ .nullable inner :=
      fun inner htype => hmeans ⟨⟨inner, htype⟩, .inr rfl⟩
    rw [ColumnType.normalize_nullLiteral htype hv, ColumnType.literal_string]
    rfl

/-- The spelling of null for a nullable number, and for a text that a name of an enumeration spells
like null. -/
theorem null_test_iff_meansNull_spelled :
    let state : ColumnType := .enumeration .enum8 [("\\N", 1)]
    let fields := FieldSet.ofList "task" [("due", .nullable (.int .uint32)), ("state", state)]
    let raw := Value.string "\\N"
    (fields.get "due" = .ok (.nullable (.int .uint32)) ∧
      Registry.builtin.resolve? "eq" = some Registry.equal ∧
        Registry.equal.render fields "due" (.value raw) = .ok "due IS NULL" ∧
        MeansNull (.nullable (.int .uint32)) raw) ∧
      fields.get "state" = .ok state ∧
        Registry.builtin.resolve? "ne" = some (.comparison "!=" (some "IS NOT NULL")) ∧
        (comparison "!=" (some "IS NOT NULL")).render fields "state" (.value raw) =
          .ok "state != '\\\\N'" ∧
        ¬ MeansNull state raw := by
  intro state fields raw
  have hdue : Registry.equal.render fields "due" (.value raw) = .ok "due IS NULL" := rfl
  have hstate : (comparison "!=" (some "IS NOT NULL")).render fields "state" (.value raw) =
      .ok "state != '\\\\N'" := rfl
  obtain ⟨hnull, -⟩ := null_test_iff_meansNull fields "due" _ rfl .isNull _ rfl raw _ hdue
  obtain ⟨hnot, -⟩ := null_test_iff_meansNull fields "state" _ rfl .isNotNull _ rfl raw _ hstate
  exact ⟨⟨rfl, rfl, hdue, hnull.mp rfl⟩, rfl, rfl, hstate, fun h => absurd (hnot.mpr h) (by decide)⟩

end SelectBuilder.Operator
