import SelectBuilder.Column.Literal
import SelectBuilder.Proofs.Calendar.Instants
import SelectBuilder.Proofs.Column.Domain
import SelectBuilder.Proofs.Text.Literal

/-! Literals read back by the type of their column. A reader stops at the end of a literal whatever
follows it, unless that is a digit, and lists of literals read back as their items. -/
namespace SelectBuilder

open Numeral (NoDigitAhead)

/-- The second that an instant lies in, which is what a literal keeps of it. -/
def Instant.wholeSecond (t : Instant) : Instant :=
  ⟨t.seconds, 0, t.inRange, epoch.isNanos⟩

namespace Value

mutual

def wholeSecond : Value → Value
  | .dateTime t => .dateTime t.wholeSecond
  | .array items => .array (wholeSeconds items)
  | v => v

def wholeSeconds : List Value → List Value
  | [] => []
  | item :: rest => wholeSecond item :: wholeSeconds rest

end

theorem wholeSeconds_eq_map (items : List Value) : wholeSeconds items = items.map wholeSecond := by
  induction items with
  | nil => rfl
  | cons item rest ih => rw [wholeSeconds, ih, List.map_cons]

end Value

namespace ColumnType

def floatFree : ColumnType → Bool
  | .float _ => false
  | .nullable inner | .array inner => inner.floatFree
  | _ => true

/-- The value that a literal of the column stands for, and what follows the literal. -/
def read : ColumnType → List Char → Option (Value × List Char)
  | .string, s | .fixedString _, s | .enumeration .., s =>
    (Text.readQuoted s).map fun (text, rest) => (.string text, rest)
  | .int _, s => (Numeral.read s).map fun (n, rest) => (Column.number n, rest)
  | .float _, _ => none
  | .bool, s => do
    let (n, rest) ← Numeral.read s
    if n = 0 then some (.bool false, rest) else if n = 1 then some (.bool true, rest) else none
  | .date, s => do
    let (text, rest) ← Text.readQuoted s
    let d ← Reading.date? text.toList
    return (.date d, rest)
  | .dateTime, s => do
    let (text, rest) ← Text.readQuoted s
    let (n, more) ← Numeral.read text.toList
    if more.isEmpty then (Instant.ofTimestamp? n).map fun t => (.dateTime t, rest) else none
  | .nullable inner, s =>
    match Value.nullLiteral.toList.isPrefixOf? s with
    | some rest => some (.null, rest)
    | none => inner.read s
  | .array inner, s =>
    (Text.readList '[' ']' inner.read s).map fun (items, rest) => (.array items, rest)

end ColumnType

namespace Column

theorem wholeSecond_number (n : Int) : (number n).wholeSecond = number n := by
  unfold number
  split <;> rfl

theorem literal_number {type : IntType} {n : Int} (hl : type.least ≤ n) (hg : n ≤ type.greatest) :
    (number n).literal true = toString n := by
  have hbounds : -2 ^ 63 ≤ type.least ∧ type.greatest ≤ 2 ^ 64 - 1 := by
    cases type <;> decide
  obtain ⟨hleast, hgreatest⟩ := hbounds
  unfold number
  split
  next h => rw [Value.literal, Int64.toInt_ofInt_of_le (by omega) h]
  next h =>
    have hnat : (n.toNat : Int) = n := Int.toNat_of_nonneg (by omega)
    have hsize : n.toNat < UInt64.size := by
      have hpow : UInt64.size = 2 ^ 64 := rfl
      omega
    have htext : toString n.toNat = toString (n.toNat : Int) := rfl
    rw [Value.literal, UInt64.toNat_ofNat_of_lt' hsize, htext, hnat]

end Column

namespace ColumnType

variable {type : ColumnType} {v : Value} {rest : List Char}

theorem literal_nullable (inner : ColumnType) (quoted : Bool) (hv : v ≠ .null) :
    (nullable inner).literal quoted v = inner.literal quoted v := by
  cases v with
  | null => exact absurd rfl hv
  | _ => rfl

theorem literal_int {type : IntType} {n : Int} (hl : type.least ≤ n) (hg : n ≤ type.greatest) :
    (int type).literal true (Column.number n) = Numeral.paddedInt 0 n := by
  have hplain : (int type).literal true (Column.number n) = (Column.number n).literal true := by
    unfold Column.number
    split <;> rfl
  rw [hplain, Column.literal_number hl hg, Numeral.toString_eq_paddedInt]

theorem literal_null (inner : ColumnType) :
    ((nullable inner).literal true .null).toList = ['\\', 'N'] := by
  rw [literal]
  decide

def startsLiteral (c : Char) : Bool :=
  c == '\x27' || c == '-' || c == '[' || c.isDigit

/-- The first character of a literal, which is a backslash for null only. -/
theorem literal_head (ht : type.floatFree = true) (h : type.Admits v) :
    ∃ c s, (type.literal true v).toList = c :: s ∧
      (startsLiteral c = true ∨ c = '\\' ∧ v = .null) := by
  have hquote : ∀ s, ∃ c t, (Text.quote s).toList = c :: t ∧
      (startsLiteral c = true ∨ c = '\\' ∧ v = .null) :=
    fun s => ⟨_, _, Text.toList_quote s, .inl rfl⟩
  induction h with
  | string s | @fixedString _ s | @enumeration _ _ s => exact hquote s
  | @int type n hl hg =>
    rw [literal_int hl hg]
    cases n with
    | ofNat n =>
      obtain ⟨c, s, hc, hd⟩ := Numeral.exists_padded_eq_cons 0 n
      exact ⟨c, s, String.toList_ofList.trans hc, .inl (by simp [startsLiteral, hd])⟩
    | negSucc n => exact ⟨_, _, String.toList_ofList, .inl rfl⟩
  | float => cases ht
  | bool b =>
    cases b with
    | true => exact ⟨'1', [], rfl, .inl rfl⟩
    | false => exact ⟨'0', [], rfl, .inl rfl⟩
  | date d => exact hquote d.text
  | dateTime t => exact hquote t.timestampText
  | null inner => exact ⟨'\\', ['N'], literal_null inner, .inr ⟨rfl, rfl⟩⟩
  | @nullable inner v h ih =>
    by_cases hv : v = .null
    · subst hv
      exact ⟨'\\', ['N'], literal_null inner, .inr ⟨rfl, rfl⟩⟩
    · rw [literal_nullable inner true hv]
      exact ih ht hquote
  | @array inner items h ih =>
    exact ⟨'[',
      (Text.commaJoin (items.map (inner.literal true)) ++ "]").toList, by simp [literal], .inl rfl⟩

theorem literal_head_ne {mark : Char} (hmark : startsLiteral mark = false) (hb : mark ≠ '\\')
    (ht : type.floatFree = true) (h : type.Admits v) :
    ∃ c s, (type.literal true v).toList = c :: s ∧ c ≠ mark := by
  obtain ⟨c, s, hc, hstart⟩ := literal_head ht h
  refine ⟨c, s, hc, ?_⟩
  rintro rfl
  rcases hstart with hstart | ⟨hstart, -⟩
  · exact Bool.noConfusion (hmark.symm.trans hstart)
  · exact hb hstart

theorem nullLiteral_isPrefixOf?_literal (ht : type.floatFree = true) (h : type.Admits v)
    (hv : v ≠ .null) (rest : List Char) :
    Value.nullLiteral.toList.isPrefixOf? ((type.literal true v).toList ++ rest) = none := by
  obtain ⟨c, s, hc, hstart⟩ := literal_head ht h
  have hb : c ≠ '\\' := by
    rintro rfl
    rcases hstart with hstart | ⟨-, hnull⟩
    · exact absurd hstart (by decide)
    · exact hv hnull
  have hbeq : ('\\' == c) = false := beq_eq_false_iff_ne.mpr (Ne.symm hb)
  rw [hc, List.cons_append]
  simp [Value.nullLiteral, List.isPrefixOf?, hbeq]

theorem read_null (inner : ColumnType) (rest : List Char) :
    (nullable inner).read (((nullable inner).literal true .null).toList ++ rest) =
      some (.null, rest) := by
  have htext : (nullable inner).literal true .null = Value.nullLiteral := rfl
  rw [htext, read, Text.isPrefixOf?_append]

/-- A literal of the column reads back up to its end, whatever follows it unless that is a digit. -/
theorem read_literal (ht : type.floatFree = true) (h : type.Admits v) (hrest : NoDigitAhead rest) :
    type.read ((type.literal true v).toList ++ rest) = some (v.wholeSecond, rest) := by
  induction h generalizing rest with
  | string s | @fixedString _ s | @enumeration _ _ s =>
    have hread := Text.readQuoted_quote s rest
    exact congrArg (Option.map _) hread
  | @int type n hl hg =>
    rw [literal_int hl hg, read, Numeral.read_paddedInt hrest, Column.wholeSecond_number]
    rfl
  | float => cases ht
  | bool b =>
    have hread := Numeral.read_paddedInt hrest 0 (if b then 1 else 0)
    have htext : bool.literal true (.bool b) = Numeral.paddedInt 0 (if b then 1 else 0) := by
      cases b <;> rfl
    rw [htext, read, hread]
    cases b <;> rfl
  | date d =>
    have hread := Text.readQuoted_quote d.text rest
    have htext : date.literal true (.date d) = Text.quote d.text := rfl
    rw [htext, read, hread]
    simp [Reading.date?_text, Value.wholeSecond]
  | dateTime t =>
    have hread := Text.readQuoted_quote t.timestampText rest
    have htext : dateTime.literal true (.dateTime t) = Text.quote t.timestampText := rfl
    have hnumber : Numeral.read t.timestampText.toList = some (t.seconds, []) := by
      have := Numeral.read_paddedInt Numeral.noDigitAhead_nil 10 t.seconds
      rwa [List.append_nil] at this
    have htime : Instant.ofTimestamp? t.seconds = some t.wholeSecond :=
      (Instant.ofTimestamp?_eq_at? t.seconds).trans t.wholeSecond.at?_utc
    rw [htext, read, hread]
    simp [hnumber, htime, Value.wholeSecond]
  | null inner => exact read_null inner rest
  | @nullable inner v h ih =>
    -- the inner column may be nullable too, and then null is written once
    by_cases hv : v = .null
    · subst hv
      exact read_null inner rest
    · have ht : inner.floatFree = true := ht
      rw [literal_nullable inner true hv, read, nullLiteral_isPrefixOf?_literal ht h hv rest]
      exact ih ht hrest
  | @array inner items h ih =>
    have htext : ((array inner).literal true (.array items)).toList ++ rest =
        '[' :: ((Text.commaJoin (items.map (inner.literal true))).toList ++ ']' :: rest) := by
      simp [literal]
    have hlist : Text.readList '[' ']' inner.read
        ('[' :: ((Text.commaJoin (items.map (inner.literal true))).toList ++ ']' :: rest)) =
          some (items.map Value.wholeSecond, rest) := by
      refine Text.readList_commaJoin (fun item hitem => ?_)
        (fun item hitem s hs => ih item hitem ht hs)
        (Numeral.noDigitAhead_cons (by decide)) (Numeral.noDigitAhead_cons (by decide)) (by decide)
      exact literal_head_ne rfl (by decide) ht (h item hitem)
    rw [htext, read, hlist, Value.wholeSecond, Value.wholeSeconds_eq_map]
    rfl

end ColumnType

end SelectBuilder
