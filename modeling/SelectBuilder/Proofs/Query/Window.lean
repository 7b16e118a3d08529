import Mathlib.Data.List.TakeWhile
import SelectBuilder.Proofs.Number.Numeral
import SelectBuilder.Proofs.Query.Clauses
import SelectBuilder.Proofs.Text.Marks
import SelectBuilder.Query.Memory

/-! The window that a statement names, read from its text. It is the last line of the statement, so
that it is found whatever stands in front of it; and a statement on whose lines nothing adds a line
names none if it has none. -/
namespace SelectBuilder

open Text (OneLine)

namespace MemorySource

/-- The window that a source finds in a statement. -/
def NamesWindow (sql : String) (limits : Option Limits) : Prop :=
  limits? sql = limits.map fun limits => (limits.offset.toNat, limits.count.toNat)

/-- The window is read back from the line that names it, which is the last one. -/
theorem limits?_limitText (head : String) (limits : Limits) :
    limits? (head ++ "\n" ++ Select.limitText limits) =
      some (limits.offset.toNat, limits.count.toNat) := by
  have hdigits : ∀ n, ∀ c ∈ Nat.toDigits 10 n, c.isDigit = true := fun n c hc =>
    Nat.isDigit_of_mem_toDigits (by decide) (by decide) hc
  have hnotMem : ∀ {c : Char}, c.isDigit = false → ∀ n, c ∉ Nat.toDigits 10 n := fun hc n hmem =>
    Bool.noConfusion ((hdigits n _ hmem).symm.trans hc)
  have hbound : ∀ n : UInt64,
      Numeral.nat (2 ^ 64 - 1) (Nat.toDigits 10 n.toNat) = .ok n.toNat := fun n =>
    Numeral.nat_toDigits (Nat.le_pred_of_lt n.toNat_lt)
  let count := Nat.toDigits 10 limits.count.toNat
  let window := Nat.toDigits 10 limits.offset.toNat ++ (',' :: [' '] ++ count)
  have htext : (head ++ "\n" ++ Select.limitText limits).toList =
      head.toList ++ ('\n' :: "LIMIT ".toList ++ window) := by
    simp [window, count, Select.limitText]
  have hwindow :
      Text.cutLast? limitMark.toList (head.toList ++ ('\n' :: "LIMIT ".toList ++ window)) =
      some (head.toList, window) := by
    refine Text.cutLast?_append (by decide) ?_
    simp only [window, count, List.mem_append, not_or]
    exact ⟨hnotMem rfl _, by decide, hnotMem rfl _⟩
  have hcomma : Text.cutFirst? [',', ' '] window =
      some (Nat.toDigits 10 limits.offset.toNat, count) :=
    Text.cutFirst?_append (hnotMem rfl _)
  have hcount : count.takeWhile Char.isDigit = count := List.takeWhile_eq_self_iff.mpr (hdigits _)
  simp only [limits?, htext, hwindow, hcomma, hcount, count, hbound, Option.bind_eq_bind,
    Option.bind_some, Except.toOption]
  rfl

/-- A counted statement names the window that the statement names, whatever the statement holds: its
mark can neither start in front of the statement nor end behind it. -/
theorem limits?_countStatement (sql : String) :
    limits? (DataSource.countStatement sql) = limits? sql := by
  have hclose : ")".toList = [')'] := by decide
  have hmark : limitMark.toList = '\n' :: "LIMIT ".toList := by decide
  have htext : (DataSource.countStatement sql).toList = "SELECT count() FROM (".toList ++
      (sql.toList ++ [')']) := by
    unfold DataSource.countStatement
    rw [String.toList_append, String.toList_append, List.append_assoc, hclose]
  rw [limits?, limits?, htext, hmark, Text.cutLast?_append_left (by decide),
    Text.cutLast?_concat (by decide)]
  cases Text.cutLast? ('\n' :: "LIMIT ".toList) sql.toList with
  | none => rfl
  | some cut =>
    have hcomma := Text.cutFirst?_concat (show ')' ∉ ',' :: [' '] by decide) cut.2
    simp only [Option.map_some, Option.bind_eq_bind, Option.bind_some, hcomma]
    cases Text.cutFirst? [',', ' '] cut.2 with
    | none => rfl
    | some cut =>
      have hdigits : (cut.2 ++ [')']).takeWhile Char.isDigit = cut.2.takeWhile Char.isDigit := by
        rw [List.takeWhile_append]
        split
        next h =>
          rw [(List.takeWhile_prefix _).eq_of_length h, List.takeWhile_cons_of_neg (by decide),
            List.append_nil]
        next => rfl
      simp only [Option.map_some, Option.bind_some, hdigits]

theorem limits?_eq_none {sql : String} (h : ¬ limitMark.toList <:+: sql.toList) :
    limits? sql = none := by
  rw [limits?, Text.cutLast?_eq_none_iff.mpr h]
  rfl

end MemorySource

namespace Select

variable {fields : FieldSet} {s : Select} {text : String}

theorem exists_head_of_limits {limits : Limits} (hlimits : s.limits = some limits)
    (h : s.sql fields = .ok text) :
    ∃ head, text = head ++ "\n" ++ limitText limits := by
  obtain ⟨lines, hlines, h⟩ := Outcome.bind_eq_ok.mp h
  obtain rfl := Except.ok.inj h
  obtain ⟨prefilters, filters, -, -, rfl⟩ := lines_eq_ok hlines
  have hline : s.limitLine = [limitText limits] := by rw [limitLine, hlimits]; rfl
  refine ⟨"\n".intercalate ([s.selectLine, s.fromLine] ++ prefilters ++ filters ++ s.groupByLine ++
    s.orderByLine), ?_⟩
  rw [hline, String.intercalate_append_of_ne_nil (by simp) (List.cons_ne_nil _ _),
    String.intercalate_singleton]

theorem limits?_sql {limits : Limits} (hlimits : s.limits = some limits)
    (h : s.sql fields = .ok text) :
    MemorySource.limits? text = some (limits.offset.toNat, limits.count.toNat) ∧
      MemorySource.limits? (DataSource.countStatement text) =
        some (limits.offset.toNat, limits.count.toNat) := by
  obtain ⟨head, rfl⟩ := exists_head_of_limits hlimits h
  have hread := MemorySource.limits?_limitText head limits
  exact ⟨hread, (MemorySource.limits?_countStatement _).trans hread⟩

/-- A statement that has no window and nothing in it that adds a line has no mark of a window. -/
theorem Lined.limits?_sql (hs : s.Lined fields) (hlimits : s.limits = none)
    (h : s.sql fields = .ok text) :
    MemorySource.limits? text = none ∧
    MemorySource.limits? (DataSource.countStatement text) = none := by
  suffices hmark : ¬ MemorySource.limitMark.toList <:+: text.toList from
    have hnone := MemorySource.limits?_eq_none hmark
    ⟨hnone, (MemorySource.limits?_countStatement text).trans hnone⟩
  obtain ⟨lines, hlines, h⟩ := Outcome.bind_eq_ok.mp h
  obtain rfl := Except.ok.inj h
  intro hinfix
  rw [String.toList_intercalate] at hinfix
  have hword : '\n' ∉ "LIMIT ".toList := by decide
  obtain ⟨chars, hchars, body, hbody⟩ :=
    Text.exists_line_of_infix hword (List.forall_mem_map.mpr (hs.oneLine hlines)) hinfix
  obtain ⟨line, hline, rfl⟩ := List.mem_map.mp (List.mem_of_mem_tail hchars)
  have hkind : ClauseKind.ofLine? line = some .window := by
    have htext : line = ClauseKind.window.keyword ++ " " ++ String.ofList body := by
      rw [← String.toList_inj, ← hbody]
      simp [ClauseKind.keyword]
    rw [htext]
    exact ClauseKind.ofLine?_keyword .window _
  have hmem : some ClauseKind.window ∈ s.clauses.map some := by
    rw [← lines_kinds hlines, ← hkind]
    exact List.mem_map_of_mem hline
  obtain ⟨kind, hkind, hwindow⟩ := List.mem_map.mp hmem
  obtain rfl := Option.some.inj hwindow
  have hhas := (List.mem_filter.mp hkind).2
  rw [has, hlimits] at hhas
  exact Bool.noConfusion hhas

/-- The window of a statement is found in its text, and in the text that counts its rows. A
statement without one has to keep what it is made of to its lines. -/
theorem namesWindow_sql (hs : s.limits = none → s.Lined fields) (h : s.sql fields = .ok text) :
    MemorySource.NamesWindow text s.limits ∧
    MemorySource.NamesWindow (DataSource.countStatement text) s.limits := by
  cases hlimits : s.limits with
  | none => exact (hs hlimits).limits?_sql hlimits h
  | some limits => exact limits?_sql hlimits h

end Select

end SelectBuilder
