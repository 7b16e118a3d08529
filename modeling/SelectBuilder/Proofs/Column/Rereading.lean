import SelectBuilder.Proofs.Column.Idempotence
import SelectBuilder.Proofs.Column.Times

/-! Literals without quotes as texts for the same column. A column accepts what it has written, and
makes the same literal of it, unless it has written an instant before 1970: a timestamp with a sign
is no text of an instant. -/
namespace SelectBuilder

theorem Reading.civil?_of_negative {n : Nat} (width : Nat) :
    civil? ('-' :: Numeral.padded width n) = none := by
  have hread : number? (Numeral.padded width n ++ []).length (Numeral.padded width n ++ []) =
      some (n, []) :=
    number?_length Numeral.noDigitAhead_nil
  rw [List.append_nil] at hread
  have hyear : year? ('-' :: Numeral.padded width n) =
      (number? (Numeral.padded width n).length (Numeral.padded width n)).map fun p =>
        (-(p.1 : Int), p.2) := by
    rw [year?, skipBlanks_cons (by decide)]
    rfl
  rw [civil?, hyear, hread]
  rfl

theorem Text.unescape_paddedInt (width : Nat) (n : Int) :
    unescape (Numeral.paddedInt width n) = Numeral.paddedInt width n := by
  have hplain : escape (Numeral.paddedInt width n) = Numeral.paddedInt width n :=
    escape_eq_self fun c hc =>
    escapeLetter?_of_isTimeChar
      (List.all_eq_true.mp (Reading.all_isTimeChar_paddedInt width n) c hc)
  rw [← congrArg unescape hplain, unescape_escape]

def Value.precedesEpoch : Value → Bool
  | .dateTime t => t.seconds < 0
  | _ => false

namespace Column

variable {zone : Zone} {t : Instant}

theorem int_toString {type : IntType} {n : Int} (h : type.Holds n) :
    int type (.string (toString n)) = .ok (number n) := by
  obtain ⟨hleast, hgreatest⟩ := h.bounds
  have hs : (toString n).toList = [] ++ (toString n).toList ++ [] := by
    rw [List.nil_append, List.append_nil]
  rw [int_of_spells type (.text hs nofun (Numeral.writes_toString n) nofun),
    if_pos (fits_of_bounds hleast hgreatest)]
  exact checked_eq_ok.mpr ⟨h, rfl⟩

theorem bool_digit (b : Bool) : bool (.string (if b then "1" else "0")) = .ok (.bool b) := by
  have hword : Text.lowerAscii (Text.trim (if b then "1" else "0")) = if b then "1" else "0" := by
    cases b <;> decide +kernel
  rw [bool, hword]
  cases b <;> rfl

theorem dateTime_timestampText (ht : 0 ≤ t.seconds) :
    dateTime zone (.string t.timestampText) = .ok (.dateTime t.wholeSecond) := by
  obtain ⟨n, hn⟩ := Int.eq_ofNat_of_zero_le ht
  have hs : t.timestampText.toList = [] ++ Numeral.padded 10 n ++ [] := by
    rw [Instant.timestampText, hn, List.nil_append, List.append_nil]
    exact String.toList_ofList
  have hspells :=
    SpellsSeconds.text hs nofun (Numeral.padded_ne_nil 10 n) Numeral.isDigit_of_mem_padded nofun
  rw [Numeral.ofDigitChars_padded] at hspells
  have hsecond : Instant.ofTimestamp? n = some t.wholeSecond := by
    rw [← hn]
    exact (Instant.ofTimestamp?_eq_at? t.seconds).trans t.wholeSecond.at?_utc
  rw [dateTime_of_spells hspells, hsecond]
  rfl

/-- A sign in front of the digits leaves no way to read a timestamp. -/
theorem dateTime_timestampText_of_neg (ht : t.seconds < 0) :
    dateTime zone (.string t.timestampText) =
      .error (.unexpected "datetime" (.string t.timestampText)) := by
  obtain ⟨n, hn⟩ := Int.eq_negSucc_of_lt_zero ht
  have htext : t.timestampText.toList = '-' :: Numeral.padded 9 (n + 1) := by
    rw [Instant.timestampText, hn]
    exact String.toList_ofList
  have hbare := (Numeral.writes_paddedInt 10 t.seconds).isBlank_eq_false
  have htrim : Text.trimChars t.timestampText.toList = t.timestampText.toList :=
    Text.trimChars_eq_self (fun c hc => hbare c (List.mem_of_head? hc)) fun c hc =>
      hbare c (List.mem_of_getLast? hc)
  have hzero : t.timestampText ≠ zeroDateTime := by
    intro h
    rw [h] at htext
    cases htext
  have hdash : '-' ∈ t.timestampText.toList := htext ▸ List.mem_cons_self ..
  have hinternet : Reading.internet? t.timestampText.toList = none := by
    rw [htext, Reading.internet?, Reading.fixed?_cons_of_not_isDigit (by decide)]
    rfl
  have hcivil : Reading.civil? t.timestampText.toList = none := by
    rw [htext]
    exact Reading.civil?_of_negative 9
  rw [dateTime, instant?_of_text htrim hzero hdash hinternet, Reading.localTime?,
    Reading.date?, hcivil]
  rfl

end Column

namespace ColumnType

variable {zone : Zone} {type : ColumnType} {raw v : Value}

/-- A column of one value at a time that is no float and cannot be null. -/
def isPlainScalar : ColumnType → Bool
  | .float _ | .nullable _ | .array _ => false
  | _ => true

theorem normalize_unquoted (htype : type.isPlainScalar = true) (h : type.Admits v) :
    type.normalize zone (.string (Text.unescape (type.literal false v))) =
      if v.precedesEpoch then
        .error (.unexpected "datetime" (.string (Text.unescape (type.literal false v))))
      else .ok v.wholeSecond := by
  have htext : ∀ s : String, Text.unescape (Text.stringLiteral false s) = s := Text.unescape_escape
  cases h with
  | string s => exact congrArg (fun text => Column.string (.string text)) (htext s)
  | @fixedString limit s size unpadded =>
    have hkept : Column.fixedString limit (.string s) = .ok (.string s) := by
      rw [Column.fixedString, Column.unpad_eq_self unpadded, if_neg (Nat.not_lt.mpr size)]
    exact (congrArg (fun text => Column.fixedString limit (.string text)) (htext s)).trans hkept
  | @int type n least greatest =>
    have hliteral : (int type).literal false (Column.number n) = toString n := by
      rw [literal_unquoted_eq _ (Column.isText_number n), literal_int least greatest,
        Numeral.toString_eq_paddedInt]
    have hescapes : Text.unescape (toString n) = toString n := by
      rw [Numeral.toString_eq_paddedInt, Text.unescape_paddedInt]
    have hepoch : (Column.number n).precedesEpoch = false := by
      unfold Column.number
      split <;> rfl
    rw [hliteral, hescapes, hepoch, if_neg Bool.false_ne_true, Column.wholeSecond_number]
    exact Column.int_toString ⟨least, greatest⟩
  | bool b =>
    have hescapes : Text.unescape (if b then "1" else "0") = if b then "1" else "0" := by
      cases b <;> rfl
    exact (congrArg (fun text => Column.bool (.string text)) hescapes).trans (Column.bool_digit b)
  | date d =>
    exact (congrArg (fun text => Column.date zone (.string text)) (htext d.text)).trans
      (Column.date_text d)
  | dateTime t =>
    have hliteral : Text.unescape (dateTime.literal false (.dateTime t)) = t.timestampText :=
      htext t.timestampText
    rw [hliteral, Value.precedesEpoch]
    by_cases ht : t.seconds < 0
    · rw [if_pos (decide_eq_true ht)]
      exact Column.dateTime_timestampText_of_neg ht
    · rw [if_neg (by simpa using ht)]
      exact Column.dateTime_timestampText (Int.not_lt.mp ht)
  | @enumeration type variants name declared =>
    have hnamed :=
      congrArg (fun text => Column.enumeration type variants (.string text)) (htext name)
    exact hnamed.trans (Column.enumeration_of_declared type declared)
  | _ => cases htype

/-- A column without fractions of a second in its literals writes the same for an instant and for
its second. -/
theorem literal_wholeSecond (htype : type.isPlainScalar = true) (h : type.Admits v)
    (quoted : Bool) :
    type.literal quoted v.wholeSecond = type.literal quoted v := by
  cases h with
  | int => rw [Column.wholeSecond_number]
  | float | null | nullable | array => cases htype
  | _ => rfl

/-- Of the values that a plain column makes of anything, those and only those are accepted again as
the text of their unquoted literal, and give the same literal, that are no instants before 1970. -/
theorem unquoted_literal_accepted_iff (htype : type.isPlainScalar = true)
    (h : type.normalize Zone.utc raw = .ok v) :
    (∃ w, type.normalize Zone.utc (.string (Text.unescape (type.literal false v))) = .ok w ∧
      ∀ quoted, type.literal quoted w = type.literal quoted v) ↔ v.precedesEpoch = false := by
  have hadmits := admits_of_normalize h
  rw [normalize_unquoted htype hadmits]
  cases hepoch : v.precedesEpoch with
  | true =>
    rw [if_pos rfl]
    exact iff_of_false (fun ⟨_, hw, _⟩ => nomatch hw) nofun
  | false =>
    rw [if_neg Bool.false_ne_true]
    exact iff_of_true ⟨v.wholeSecond, rfl, literal_wholeSecond htype hadmits⟩ rfl

/-- A text with a quote and padding, whose literal has an escape. -/
theorem unquoted_literal_accepted_iff_escaped :
    let type := fixedString 6
    let v := Value.string "it's"
    type.isPlainScalar = true ∧ type.normalize Zone.utc (.string "it's\x00") = .ok v ∧
      type.literal false v = "it\\'s" ∧ v.precedesEpoch = false ∧
      ∃ w, type.normalize Zone.utc (.string (Text.unescape "it\\'s")) = .ok w ∧
        ∀ quoted, type.literal quoted w = type.literal quoted v := by
  intro type v
  have hnormalized : type.normalize Zone.utc (.string "it's\x00") = .ok v := by rfl
  have hliteral : type.literal false v = "it\\'s" := by decide
  have hplain : type.isPlainScalar = true := rfl
  have haccepted := (unquoted_literal_accepted_iff hplain hnormalized).mpr rfl
  rw [hliteral] at haccepted
  exact ⟨rfl, hnormalized, hliteral, rfl, haccepted⟩

/-- The last second before 1970 is written as a timestamp that the same column refuses. -/
theorem early_timestamp_refused :
    ∃ v, dateTime.normalize Zone.utc (.int (-1)) = .ok v ∧ dateTime.literal false v = "-000000001" ∧
      dateTime.normalize Zone.utc (.string (Text.unescape (dateTime.literal false v))) =
        .error (.unexpected "datetime" (.string "-000000001")) := by
  let t : Instant := ⟨-1, 0, by decide, by decide⟩
  have hliteral : dateTime.literal false (.dateTime t) = "-000000001" := by decide +kernel
  have htext : Text.unescape "-000000001" = "-000000001" := by decide
  refine ⟨.dateTime t, rfl, hliteral, ?_⟩
  rw [hliteral, htext]
  rfl

end ColumnType

end SelectBuilder
