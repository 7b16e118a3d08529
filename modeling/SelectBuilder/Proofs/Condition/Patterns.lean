import SelectBuilder.Condition.Registry
import SelectBuilder.Proofs.Column.Pattern
import SelectBuilder.Proofs.Text.Like

/-! Patterns of LIKE conditions. On a column of texts a pattern finds exactly the texts that hold
the value at its place. On any column it stands inside its quotes, unless the value is an array with
a text in it. -/
namespace SelectBuilder

open Text (LiteralBody Placement)

namespace Operator

/-- The name of the operator that looks for a text, with regard to case or without. -/
def lookupName : Placement → Bool → String
  | .anywhere, true => "contains"
  | .atStart, true => "startswith"
  | .atEnd, true => "endswith"
  | .anywhere, false => "icontains"
  | .atStart, false => "istartswith"
  | .atEnd, false => "iendswith"

theorem resolve?_lookupName (place : Placement) (caseSensitive : Bool) :
    Registry.builtin.resolve? (lookupName place caseSensitive) =
      some (.like place.template caseSensitive) := by
  cases place <;> cases caseSensitive <;> rfl

variable {fields : FieldSet} {field text : String} {type : ColumnType} {operand : Operand}

theorem singleValue_eq_ok {name : String} {raw : Value} :
    singleValue name operand = .ok raw ↔ operand = .value raw := by
  cases operand <;> simp [singleValue]

theorem likePattern_eq_ok {pattern : String} (hfield : fields.get field = .ok type) :
    likePattern pattern fields field operand = .ok text ↔ ∃ raw v, operand = .value raw ∧
      type.normalize Zone.utc raw = .ok v ∧
      text = Text.fill pattern (Text.likeBody (type.literal false v)) := by
  constructor
  · intro h
    obtain ⟨_, htype, h⟩ := Outcome.bind_eq_ok.mp h
    obtain rfl := Except.ok.inj (hfield.symm.trans htype)
    obtain ⟨raw, hraw, h⟩ := Outcome.bind_eq_ok.mp h
    obtain ⟨v, hv, h⟩ := Outcome.bind_eq_ok.mp h
    exact ⟨raw, v, singleValue_eq_ok.mp hraw, Outcome.mapError_eq_ok.mp hv, (Except.ok.inj h).symm⟩
  · rintro ⟨raw, v, rfl, hv, rfl⟩
    have hnormal : FieldSet.normalize type field raw = .ok v := Outcome.mapError_eq_ok.mpr hv
    exact Outcome.bind_eq_ok.mpr ⟨type, hfield, Outcome.bind_eq_ok.mpr ⟨raw, rfl,
      Outcome.bind_eq_ok.mpr ⟨v, hnormal, rfl⟩⟩⟩

theorem likeText_eq (pattern : String) :
    likeText true field pattern = field ++ " LIKE " ++ ("'" ++ pattern ++ "'") := by
  rw [likeText, ← String.toList_inj]
  simp

theorem toList_fill (place : Placement) (s : String) :
    (Text.fill place.template (Text.likeBody s)).toList =
      place.around (Text.likeChars s.toList) := by
  rw [Placement.fill_template, Text.likeBody, String.toList_ofList]

/-- Filled with an escaped text and put into quotes, a template is the literal of the pattern that
finds the text. -/
theorem quoted_fill_escape (place : Placement) (s : String) :
    "'" ++ Text.fill place.template (Text.likeBody (Text.escape s)) ++ "'" =
      Text.quote (place.pattern s) := by
  have hpercent : Text.escapeChar '%' = ['%'] := rfl
  rw [← String.toList_inj, Text.toList_quote, String.toList_append, String.toList_append,
    toList_fill, Text.escape, String.toList_ofList, Placement.pattern, String.toList_ofList,
    Text.likeChars_escape]
  cases place <;> simp [Placement.around, Placement.before, Placement.after, hpercent]

/-- On a column of texts, a lookup with regard to case renders a literal whose text, as a pattern,
fits exactly the texts that hold the normalized value at the place. -/
theorem lookup_fits_iff_holds (fields : FieldSet) (field : String) (type : ColumnType)
    (hfield : fields.get field = .ok type) (ht : type.isText = true) (raw : Value) (s : String)
    (h : type.normalize Zone.utc raw = .ok (.string s)) (place : Placement) :
    ∃ operator literal pattern, Registry.builtin.resolve? (lookupName place true) = some operator ∧
      operator.render fields field (.value raw) = .ok (field ++ " LIKE " ++ literal) ∧
      Text.readQuoted literal.toList = some (pattern, []) ∧
      ∀ t : String, Text.isLike pattern t = true ↔ place.Holds s.toList t.toList := by
  refine ⟨_, Text.quote (place.pattern s), place.pattern s, resolve?_lookupName place true, ?_, ?_,
    fun t => place.isLike_pattern_iff⟩
  · have hpattern : likePattern place.template fields field (.value raw) =
        .ok (Text.fill place.template (Text.likeBody (type.literal false (.string s)))) :=
      (likePattern_eq_ok hfield).mpr ⟨raw, _, rfl, h, rfl⟩
    rw [ColumnType.literal_of_isText ht] at hpattern
    rw [render, hpattern, ← quoted_fill_escape, ← likeText_eq]
    rfl
  · have hread := Text.readQuoted_quote (place.pattern s) []
    rwa [List.append_nil] at hread

/-- A padded text with wildcards, backslashes, quotes, a line feed and the mark of a template in
it. -/
theorem lookup_fits_iff_holds_wildcards :
    let type : ColumnType := .nullable (.fixedString 16)
    let fields := FieldSet.ofList "shelf" [("label", type)]
    let raw := Value.string "\\%_\\\\%\x27\n\x7b\x7d\x00\x00"
    let s := "\\%_\\\\%\x27\n\x7b\x7d"
    fields.get "label" = .ok type ∧ type.isText = true ∧
    type.normalize Zone.utc raw = .ok (.string s) ∧
      ∃ operator literal pattern, Registry.builtin.resolve? "contains" = some operator ∧
        operator.render fields "label" (.value raw) = .ok ("label" ++ " LIKE " ++ literal) ∧
        Text.readQuoted literal.toList = some (pattern, []) ∧
        ∀ t : String, Text.isLike pattern t = true ↔ s.toList <:+: t.toList := by
  intro type fields raw s
  have hfield : fields.get "label" = .ok type := rfl
  have hnormal : type.normalize Zone.utc raw = .ok (.string s) := rfl
  exact ⟨hfield, rfl, hnormal,
    lookup_fits_iff_holds fields "label" type hfield rfl raw s hnormal .anywhere⟩

/-- A lookup that renders puts its pattern into one literal exactly if the normalized value is no
array with a text in it. -/
theorem lookup_isLiteral_iff (fields : FieldSet) (field : String) (type : ColumnType)
    (hfield : fields.get field = .ok type) (place : Placement) (caseSensitive : Bool)
    (operator : Operator)
    (hname : Registry.builtin.resolve? (lookupName place caseSensitive) = some operator)
    (operand : Operand) (text : String) (h : operator.render fields field operand = .ok text) :
    ∃ raw v pattern, operand = .value raw ∧ type.normalize Zone.utc raw = .ok v ∧
      text = likeText caseSensitive field pattern ∧
      (Text.isLiteral ("'" ++ pattern ++ "'") = true ↔ v.listsText = false) := by
  obtain rfl := Option.some.inj ((resolve?_lookupName place caseSensitive).symm.trans hname)
  obtain ⟨pattern, hpattern, h⟩ := Outcome.bind_eq_ok.mp h
  obtain rfl := Except.ok.inj h
  obtain ⟨raw, v, hraw, hv, rfl⟩ := (likePattern_eq_ok hfield).mp hpattern
  refine ⟨raw, v, _, hraw, hv, rfl, ?_⟩
  have hbefore : LiteralBody place.before := by
    cases place <;> exact .of_notMem (by decide) (by decide)
  have hafter : LiteralBody place.after := by
    cases place <;> exact .of_notMem (by decide) (by decide)
  have htext := toList_fill place (type.literal false v)
  rw [← String.ofList_toList (s := Text.fill place.template (Text.likeBody (type.literal false v))),
    htext]
  cases hlist : v.listsText with
  | false =>
    have hbody := (type.literalBody_unquoted hlist).likeChars
    exact iff_of_true (hbefore.append (hbody.append hafter)).isLiteral rfl
  | true =>
    have hexposed :=
      ((type.exposesQuote_unquoted hlist).likeChars.append place.after).behind hbefore
    exact iff_of_false (by rw [Placement.around, hexposed.isLiteral]; decide) (by decide)

/-- Booleans and null in an array, on either side of a comma. -/
theorem lookup_isLiteral_iff_booleans :
    let type : ColumnType := .array (.nullable .bool)
    let fields := FieldSet.ofList "game" [("wins", type)]
    let operand := Operand.value (.array [.bool true, .string "\\N"])
    let operator := Operator.like "%\x7b\x7d" false
    let text := "lowerUTF8(wins) LIKE lowerUTF8(\x27%[1, \\N]\x27)"
    fields.get "wins" = .ok type ∧ Registry.builtin.resolve? "iendswith" = some operator ∧
      operator.render fields "wins" operand = .ok text ∧
      ∃ raw v pattern, operand = .value raw ∧ type.normalize Zone.utc raw = .ok v ∧
        text = likeText false "wins" pattern ∧
        (Text.isLiteral ("'" ++ pattern ++ "'") = true ↔ v.listsText = false) := by
  have hrender :
      (Operator.like "%\x7b\x7d" false).render
        (FieldSet.ofList "game" [("wins", .array (.nullable .bool))])
      "wins" (.value (.array [.bool true, .string "\\N"])) =
      .ok "lowerUTF8(wins) LIKE lowerUTF8(\x27%[1, \\N]\x27)" := rfl
  exact ⟨rfl, rfl, hrender, lookup_isLiteral_iff _ "wins" _ rfl .atEnd false _ rfl _ _ hrender⟩

/-- The quotes around a text in an array end the literal of the pattern, and the text stands outside
of it. -/
theorem lookup_array_text_outside :
    let fields := FieldSet.ofList "post" [("tags", .array .string)]
    let operand := Operand.value (.array [.string " OR 1 OR "])
    ∃ operator, Registry.builtin.resolve? "contains" = some operator ∧
      operator.render fields "tags" operand = .ok (likeText true "tags" "%[' OR 1 OR ']%") ∧
      Text.readQuoted "'%[' OR 1 OR ']%'".toList = some ("%[", " OR 1 OR ']%'".toList) ∧
      Text.isLiteral "'%[' OR 1 OR ']%'" = false :=
  ⟨_, rfl, rfl, rfl, rfl⟩

end Operator

end SelectBuilder
