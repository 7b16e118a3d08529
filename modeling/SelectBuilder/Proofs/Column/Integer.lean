import SelectBuilder.Proofs.Column.Forms
import SelectBuilder.Proofs.Column.Reading
import SelectBuilder.Proofs.Number.Signed
import SelectBuilder.Proofs.Text.Trimming

/-! Whole numbers in columns. However a number is spelled, a column that holds it makes one value of
it and any other column refuses it, so that no number is ever taken for another one. -/
namespace SelectBuilder

/-- A value that is a whole number, signed if a signed word can hold it and else unsigned. -/
inductive Value.IsNumber (n : Int) : Value → Prop
  | int {m : Int64} (value : m.toInt = n) : IsNumber n (.int m)
  | uint {m : UInt64} (value : m.toNat = n) (large : 2 ^ 63 ≤ n) : IsNumber n (.uint m)

def IntType.Holds (type : IntType) (n : Int) : Prop :=
  type.least ≤ n ∧ n ≤ type.greatest

instance (type : IntType) (n : Int) : Decidable (type.Holds n) :=
  inferInstanceAs (Decidable (_ ∧ _))

theorem IntType.Holds.bounds {type : IntType} {n : Int} (h : type.Holds n) :
    -2 ^ 63 ≤ n ∧ n < 2 ^ 64 := by
  obtain ⟨hleast, hgreatest⟩ := h
  have hbounds : -2 ^ 63 ≤ type.least ∧ type.greatest < 2 ^ 64 := by
    cases type <;> decide
  omega

namespace Column

variable {type : IntType} {raw v : Value} {n : Int}

theorem isNumber_number (hleast : -2 ^ 63 ≤ n) (hgreatest : n < 2 ^ 64) :
    (number n).IsNumber n := by
  unfold number
  by_cases h : n < 2 ^ 63
  · rw [if_pos h]
    exact .int (Int64.toInt_ofInt_of_le hleast h)
  · have hnat : (UInt64.ofNat n.toNat).toNat = n.toNat :=
      UInt64.toNat_ofNat_of_lt' (show n.toNat < 2 ^ 64 by omega)
    rw [if_neg h]
    exact .uint (by omega) (by omega)

theorem eq_number_of_isNumber (h : v.IsNumber n) : v = number n := by
  unfold number
  cases h with
  | @int m value =>
    have hsmall := m.toInt_lt
    rw [if_pos (by omega), ← value, Int64.ofInt_toInt]
  | uint value large => rw [if_neg (by omega), ← value, Int.toNat_natCast, UInt64.ofNat_toNat]

theorem isText_number (n : Int) : (number n).isText = false := by
  unfold number
  split <;> rfl

theorem checked_of_not_holds (h : ¬ type.Holds n) :
    checked type n = .error (.outOfRange n type) := by
  have hout : n < type.least ∨ type.greatest < n := by
    unfold IntType.Holds at h
    omega
  exact if_pos (by simpa using hout)

/-- What a raw value that is no float says: itself if it is a number, 0 or 1 if it is a truth value,
and what its decimal numeral writes if it is a text, whatever white space stands around that. -/
inductive Spells : Value → Int → Prop
  | int (n : Int64) : Spells (.int n) n.toInt
  | uint (n : UInt64) : Spells (.uint n) n.toNat
  | bool (b : Bool) : Spells (.bool b) (if b then 1 else 0)
  | text {s : String} {before numeral after : List Char} {n : Int}
      (hs : s.toList = before ++ numeral ++ after) (hbefore : ∀ c ∈ before, Text.isBlank c = true)
      (hnumeral : Numeral.Writes numeral n) (hafter : ∀ c ∈ after, Text.isBlank c = true) :
      Spells (.string s) n

theorem numeral?_eq_some_iff {s : String} :
    numeral? s = some n ↔ Numeral.Writes (Text.trimChars s.toList) n ∧ Numeral.Fits 128 n := by
  rw [← Numeral.int_eq_ok_iff, numeral?]
  cases Numeral.int 128 (Text.trimChars s.toList) <;> simp

theorem numeral?_of_writes {s : String} (h : Numeral.Writes (Text.trimChars s.toList) n) :
    numeral? s = if Numeral.Fits 128 n then some n else none := by
  by_cases hfits : Numeral.Fits 128 n
  · rw [if_pos hfits, numeral?_eq_some_iff.mpr ⟨h, hfits⟩]
  · rw [if_neg hfits, numeral?, h.int, if_neg hfits]

/-- Words of either sign have room in 128 bits. -/
theorem fits_of_bounds (hleast : -2 ^ 63 ≤ n) (hgreatest : n < 2 ^ 64) : Numeral.Fits 128 n := by
  unfold Numeral.Fits
  omega

theorem int_of_spells (type : IntType) (h : Spells raw n) :
    int type raw = if Numeral.Fits 128 n then checked type n else
      .error (.unexpected "integer" raw) := by
  cases h with
  | int n =>
    have hleast := n.le_toInt
    have hgreatest := n.toInt_lt
    rw [if_pos (fits_of_bounds hleast (by omega))]
    rfl
  | uint n =>
    have hgreatest := n.toNat_lt
    rw [if_pos (fits_of_bounds (by omega) (by omega))]
    rfl
  | bool b =>
    rw [if_pos (by cases b <;> decide)]
    rfl
  | @text s before numeral after n hs hbefore hnumeral hafter =>
    have htrim : Text.trimChars s.toList = numeral := by
      rw [hs, Text.trimChars_surrounded hbefore hnumeral.isBlank_eq_false hafter]
    have hread := numeral?_of_writes (htrim.symm ▸ hnumeral)
    simp only [int, hread]
    split <;> rfl

theorem expect_eq_ok {α : Type} {wanted : String} {x : Option α} {a : α} :
    expect wanted raw x = .ok a ↔ x = some a := by
  cases x <;> simp [expect]

/-- Nothing but a spelling of a number is taken for one. -/
theorem exists_spells (hfloat : ∀ x, raw ≠ .float x) (h : int type raw = .ok v) :
    ∃ n, Spells raw n ∧ checked type n = .ok v := by
  obtain ⟨n, hn, hchecked⟩ := Outcome.bind_eq_ok.mp h
  have hread := expect_eq_ok.mp hn
  refine ⟨n, ?_, hchecked⟩
  cases raw with
  | int m =>
    obtain rfl := Option.some.inj hread
    exact .int m
  | uint m =>
    obtain rfl := Option.some.inj hread
    exact .uint m
  | bool b =>
    obtain rfl := Option.some.inj hread
    exact .bool b
  | float x => exact absurd rfl (hfloat x)
  | string s =>
    obtain ⟨before, after, hs, hbefore, hafter⟩ := Text.exists_trimChars_surrounded s.toList
    exact .text hs hbefore (numeral?_eq_some_iff.mp hread).1 hafter
  | _ => cases hread

end Column

namespace ColumnType

open Column (Spells)

/-- Every spelling of a number that the column holds gives the same value, whose literal is the
number in decimal and spells it again; every spelling of any other number is refused; and what is
accepted and no float spells a number. -/
theorem int_spellings_agree (zone : Zone) (type : IntType) :
    (∀ n, type.Holds n → ∃ v : Value, v.IsNumber n ∧
      (∀ raw, Spells raw n → (int type).normalize zone raw = .ok v) ∧
      ∀ quoted, (int type).literal quoted v = toString n ∧
        Numeral.read ((int type).literal quoted v).toList = some (n, []) ∧
        (int type).normalize zone (.string ((int type).literal quoted v)) = .ok v) ∧
      (∀ n raw, ¬ type.Holds n → Spells raw n → (int type).normalize zone raw =
        .error (if Numeral.Fits 128 n then .outOfRange n type else .unexpected "integer" raw)) ∧
      ∀ raw v, (∀ x, raw ≠ .float x) → (int type).normalize zone raw = .ok v →
        ∃ n, Spells raw n ∧ type.Holds n ∧ v.IsNumber n := by
  refine ⟨fun n hn => ?held, fun n raw hn hraw => ?refused, fun raw v hfloat h => ?accepted⟩
  case held =>
    obtain ⟨hleast, hgreatest⟩ := hn.bounds
    have hspelled : ∀ raw, Spells raw n →
        (int type).normalize zone raw = .ok (Column.number n) := by
      intro raw hraw
      rw [normalize, Column.int_of_spells type hraw,
        if_pos (Column.fits_of_bounds hleast hgreatest)]
      exact Column.checked_eq_ok.mpr ⟨hn, rfl⟩
    refine ⟨Column.number n, Column.isNumber_number hleast hgreatest, hspelled, fun quoted => ?_⟩
    have htext : (int type).literal quoted (Column.number n) = toString n := by
      rw [Numeral.toString_eq_paddedInt, ← literal_int hn.1 hn.2]
      cases quoted with
      | true => rfl
      | false => exact literal_unquoted_eq _ (Column.isText_number n)
    have hread := Numeral.read_paddedInt Numeral.noDigitAhead_nil 0 n
    rw [List.append_nil, ← Numeral.toString_eq_paddedInt] at hread
    have hsurrounded : (toString n).toList = [] ++ (toString n).toList ++ [] := by
      rw [List.nil_append, List.append_nil]
    rw [htext]
    have hbare : ∀ c ∈ [], Text.isBlank c = true := List.forall_mem_nil _
    exact ⟨rfl, hread, hspelled _ (.text hsurrounded hbare (Numeral.writes_toString n) hbare)⟩
  case refused =>
    rw [normalize, Column.int_of_spells type hraw]
    by_cases hfits : Numeral.Fits 128 n
    · rw [if_pos hfits, if_pos hfits, Column.checked_of_not_holds hn]
    · rw [if_neg hfits, if_neg hfits]
  case accepted =>
    obtain ⟨n, hn, hchecked⟩ := Column.exists_spells hfloat h
    obtain ⟨hholds, rfl⟩ := Column.checked_eq_ok.mp hchecked
    obtain ⟨hleast, hgreatest⟩ := IntType.Holds.bounds hholds
    exact ⟨n, hn, hholds, Column.isNumber_number hleast hgreatest⟩

/-- The greatest unsigned word with a sign, zeros and white space around it, and a number beyond 128
bits. -/
theorem int_spellings_agree_extremes :
    let zone := Zone.utc
    let greatest := 18446744073709551615
    let padded := Value.string "\t+0018446744073709551615 "
    let far := 340282366920938463463374607431768211456
    let text := Value.string "340282366920938463463374607431768211456"
    (IntType.uint64.Holds greatest ∧ Spells padded greatest ∧ ∃ v : Value, v.IsNumber greatest ∧
        (int .uint64).normalize zone padded = .ok v ∧
        (int .uint64).literal true v = "18446744073709551615") ∧
      (¬ IntType.int64.Holds greatest ∧
        (int .int64).normalize zone padded = .error (.outOfRange greatest .int64)) ∧
      (¬ IntType.uint64.Holds far ∧ Spells text far ∧
        (int .uint64).normalize zone text = .error (.unexpected "integer" text)) ∧
      ∃ n, Spells (.bool true) n ∧ IntType.int8.Holds n ∧ (Value.int 1).IsNumber n := by
  intro zone greatest padded far text
  have hpadding : "\t+0018446744073709551615 ".toList =
      ['\t'] ++ "+0018446744073709551615".toList ++ [' '] := rfl
  have hpadded : Spells padded greatest :=
    .text hpadding (List.all_eq_true.mp rfl) (.plus (by decide) (List.all_eq_true.mp rfl))
      (List.all_eq_true.mp rfl)
  have hbare : "340282366920938463463374607431768211456".toList =
    [] ++ "340282366920938463463374607431768211456".toList ++ [] := rfl
  have htext : Spells text far :=
    .text hbare nofun (.plain (by decide) (List.all_eq_true.mp rfl)) nofun
  have hgreatest : IntType.uint64.Holds greatest := by decide
  have hout : ¬ IntType.int64.Holds greatest := by decide
  have hfar : ¬ IntType.uint64.Holds far := by decide
  obtain ⟨hheld, hrefused, -⟩ := int_spellings_agree zone .uint64
  obtain ⟨-, hrefusedSigned, -⟩ := int_spellings_agree zone .int64
  obtain ⟨-, -, haccepted⟩ := int_spellings_agree zone .int8
  obtain ⟨v, hnumber, hspelled, hliteral⟩ := hheld greatest hgreatest
  have hsigned := hrefusedSigned greatest padded hout hpadded
  rw [if_pos (by decide)] at hsigned
  have hbeyond := hrefused far text hfar htext
  rw [if_neg (by decide)] at hbeyond
  exact ⟨⟨hgreatest, hpadded, v, hnumber, hspelled padded hpadded, (hliteral true).1⟩,
    ⟨hout, hsigned⟩, ⟨hfar, htext, hbeyond⟩, haccepted (.bool true) (.int 1) nofun rfl⟩
end ColumnType

end SelectBuilder
