import Mathlib.Data.List.Infix
import SelectBuilder.Proofs.Text.Literal

/-! Where a mark stands in a text. A text is cut at the last place where the mark stands, also where
the mark overlaps with itself. A mark that starts with a character of its own is found where it was
put, and a mark that starts with a line feed can only stand in front of a line. -/
namespace SelectBuilder.Text

section Cutting

variable {c : Char} {mark before after s : List Char}

theorem isPrefixOf?_eq_none_iff : mark.isPrefixOf? s = none ↔ ¬ mark <+: s := by
  rw [Option.eq_none_iff_forall_ne_some]
  constructor
  · rintro h ⟨rest, rfl⟩
    exact h rest (isPrefixOf?_append mark rest)
  · rintro h rest hrest
    exact h ⟨rest, (eq_append_of_isPrefixOf? hrest).symm⟩

/-- The cut is made where the first character of the mark stands for the first time. -/
theorem cutFirst?_append (h : c ∉ before) :
    cutFirst? (c :: mark) (before ++ (c :: mark ++ after)) = some (before, after) := by
  induction before with
  | nil =>
    have hfound := isPrefixOf?_append (c :: mark) after
    rw [List.nil_append, List.cons_append, cutFirst?, ← List.cons_append, hfound]
  | cons d before ih =>
    have hd := List.ne_of_not_mem_cons h
    have hbefore := List.not_mem_of_not_mem_cons h
    have hnone : (c :: mark).isPrefixOf? (d :: (before ++ (c :: mark ++ after))) = none :=
      isPrefixOf?_eq_none_iff.mpr fun hprefix => hd (List.cons_prefix_cons.mp hprefix).1
    rw [List.cons_append, cutFirst?, hnone, ih hbefore]
    rfl

theorem cutLast?_eq_none_iff : cutLast? mark s = none ↔ ¬ mark <:+: s := by
  induction s with
  | nil => cases mark <;> simp [cutLast?]
  | cons d s ih =>
    rw [cutLast?, List.infix_cons_iff, not_or, ← ih, ← isPrefixOf?_eq_none_iff]
    cases cutLast? mark s <;> simp

/-- The cut is made at the last place where the first character of the mark stands. -/
theorem cutLast?_append (hmark : c ∉ mark) (hafter : c ∉ after) :
    cutLast? (c :: mark) (before ++ (c :: mark ++ after)) = some (before, after) := by
  induction before with
  | nil =>
    have hfound := isPrefixOf?_append (c :: mark) after
    have hnone : cutLast? (c :: mark) (mark ++ after) = none := by
      refine cutLast?_eq_none_iff.mpr fun hinfix => ?_
      have hmem := hinfix.subset (List.mem_cons_self ..)
      exact (List.mem_append.mp hmem).elim hmark hafter
    rw [List.nil_append, List.cons_append, cutLast?, hnone, ← List.cons_append, hfound]
    rfl
  | cons d before ih => rw [List.cons_append, cutLast?, ih]

/-- In front of a text, characters other than the first one of the mark go with what stands before
the cut. -/
theorem cutLast?_append_left (h : c ∉ before) :
    cutLast? (c :: mark) (before ++ s) =
      (cutLast? (c :: mark) s).map fun (head, tail) => (before ++ head, tail) := by
  induction before with
  | nil => exact Option.map_id'.symm
  | cons d before ih =>
    have hd := List.ne_of_not_mem_cons h
    have hbefore := List.not_mem_of_not_mem_cons h
    have hnone : (c :: mark).isPrefixOf? (d :: (before ++ s)) = none :=
      isPrefixOf?_eq_none_iff.mpr fun hprefix => hd (List.cons_prefix_cons.mp hprefix).1
    rw [List.cons_append, cutLast?, ih hbefore, hnone]
    cases cutLast? (c :: mark) s <;> rfl

end Cutting

/-- The mark stands behind `before` and in front of `after`, and nowhere further behind. -/
structure CutsLast (mark s before after : List Char) : Prop where
  eq : s = before ++ (mark ++ after)
  last : ∀ head tail, s = head ++ (mark ++ tail) → head.length ≤ before.length

section LastCut

variable {mark s before after : List Char}

theorem CutsLast.unique {head tail : List Char} (h : CutsLast mark s before after)
    (h' : CutsLast mark s head tail) :
    before = head ∧ after = tail := by
  have hlength : before.length = head.length :=
    Nat.le_antisymm (h'.last before after h.eq) (h.last head tail h'.eq)
  obtain ⟨hbefore, hrest⟩ := List.append_inj (h.eq.symm.trans h'.eq) hlength
  exact ⟨hbefore, List.append_cancel_left hrest⟩

theorem cutsLast_of_cutLast? (h : cutLast? mark s = some (before, after)) :
    CutsLast mark s before after := by
  induction s generalizing before with
  | nil =>
    cases mark with
    | nil =>
      obtain ⟨rfl, rfl⟩ := Prod.mk.inj (Option.some.inj h)
      exact ⟨rfl, fun head tail hs => by simp [(List.append_eq_nil_iff.mp hs.symm).1]⟩
    | cons => cases h
  | cons c rest ih =>
    rw [cutLast?] at h
    split at h
    next head tail hcut =>
      obtain ⟨rfl, rfl⟩ := Prod.mk.inj (Option.some.inj h)
      obtain ⟨rfl, hlast⟩ := ih hcut
      refine ⟨rfl, fun front back hs => ?_⟩
      cases front with
      | nil => simp
      | cons d front => exact Nat.succ_le_succ (hlast front back (List.cons.inj hs).2)
    next hnone =>
      obtain ⟨tail, htail, hcut⟩ := Option.map_eq_some_iff.mp h
      obtain ⟨rfl, rfl⟩ := Prod.mk.inj hcut
      have heq : c :: rest = mark ++ tail := eq_append_of_isPrefixOf? htail
      refine ⟨heq, fun front back hs => ?_⟩
      cases front with
      | nil => exact Nat.le_refl 0
      | cons d front =>
        have hrest : rest = front ++ (mark ++ back) := (List.cons.inj hs).2
        exact absurd ⟨front, back, by rw [hrest, List.append_assoc]⟩ (cutLast?_eq_none_iff.mp hnone)

theorem cutLast?_eq_some_iff :
    cutLast? mark s = some (before, after) ↔ CutsLast mark s before after := by
  refine ⟨cutsLast_of_cutLast?, fun h => ?_⟩
  cases hcut : cutLast? mark s with
  | none =>
    exact absurd ⟨before, after, by rw [h.eq, List.append_assoc]⟩ (cutLast?_eq_none_iff.mp hcut)
  | some cut =>
    obtain ⟨hbefore, hafter⟩ := h.unique (cutsLast_of_cutLast? hcut)
    rw [hbefore, hafter]

/-- Two equal characters make a mark that can overlap with itself. -/
theorem cutsLast_pair_iff {c : Char} :
    CutsLast [c, c] s before after ↔
      s = before ++ ([c, c] ++ after) ∧ ¬ [c, c] <:+: after ∧ after.head? ≠ some c := by
  constructor
  · rintro ⟨heq, hlast⟩
    refine ⟨heq, ?_, ?_⟩
    · rintro ⟨front, back, rfl⟩
      have hlength := hlast (before ++ ([c, c] ++ front)) back (by rw [heq]; simp)
      simp only [List.length_append, List.length_cons] at hlength
      omega
    · intro hhead
      obtain ⟨rest, rfl⟩ := List.head?_eq_some_iff.mp hhead
      have hlength := hlast (before ++ [c]) rest (by rw [heq]; simp)
      simp only [List.length_append, List.length_cons] at hlength
      omega
  · rintro ⟨heq, hinfix, hhead⟩
    refine ⟨heq, fun head tail hs => ?_⟩
    rcases List.append_eq_append_iff.mp (heq.symm.trans hs) with ⟨between, rfl,
      hrest⟩ | ⟨between, rfl, -⟩
    · -- the later mark would start inside this one or behind it
      match between, hrest with
      | [], _ => simp
      | [_], hrest =>
        obtain ⟨-, rfl⟩ : _ ∧ after = c :: tail := by simpa using hrest
        exact absurd rfl hhead
      | _ :: _ :: between, hrest =>
        obtain ⟨-, -, rfl⟩ : _ ∧ _ ∧ after = between ++ c :: c :: tail := by simpa using hrest
        exact absurd ⟨between, tail, by simp⟩ hinfix
    · simp

end LastCut

section Ends

variable {d : Char} {mark : List Char}

/-- A character that the mark does not have goes with what follows the mark. -/
theorem isPrefixOf?_concat (h : d ∉ mark) (s : List Char) :
    mark.isPrefixOf? (s ++ [d]) = (mark.isPrefixOf? s).map (· ++ [d]) := by
  induction mark generalizing s with
  | nil => rfl
  | cons m mark ih =>
    have hm := List.ne_of_not_mem_cons h
    have hmark := List.not_mem_of_not_mem_cons h
    cases s with
    | nil => simp [List.isPrefixOf?, Ne.symm hm]
    | cons a s =>
      rw [List.cons_append, List.isPrefixOf?, List.isPrefixOf?, ih hmark]
      split <;> rfl

variable {c : Char} (h : d ∉ c :: mark)
include h

/-- Behind a text, a character that the mark does not have goes with what stands behind the cut. -/
theorem cutFirst?_concat (s : List Char) :
    cutFirst? (c :: mark) (s ++ [d]) = (cutFirst? (c :: mark) s).map fun (head, tail) =>
      (head, tail ++ [d]) := by
  induction s with
  | nil =>
    have hnone : (c :: mark).isPrefixOf? [d] = none := isPrefixOf?_concat h []
    rw [List.nil_append, cutFirst?, cutFirst?, hnone]
    rfl
  | cons a s ih =>
    have hcut := isPrefixOf?_concat h (a :: s)
    rw [List.cons_append] at hcut ⊢
    rw [cutFirst?, cutFirst?, hcut, ih]
    cases (c :: mark).isPrefixOf? (a :: s) with
    | some after => rfl
    | none => cases cutFirst? (c :: mark) s <;> rfl

theorem cutLast?_concat (s : List Char) :
    cutLast? (c :: mark) (s ++ [d]) = (cutLast? (c :: mark) s).map fun (head, tail) =>
      (head, tail ++ [d]) := by
  induction s with
  | nil =>
    have hnone : (c :: mark).isPrefixOf? [d] = none := isPrefixOf?_concat h []
    rw [List.nil_append, cutLast?, cutLast?, hnone]
    rfl
  | cons a s ih =>
    have hcut := isPrefixOf?_concat h (a :: s)
    rw [List.cons_append] at hcut ⊢
    rw [cutLast?, cutLast?, hcut, ih]
    cases cutLast? (c :: mark) s with
    | some cut => rfl
    | none => cases (c :: mark).isPrefixOf? (a :: s) <;> rfl

end Ends

section Places

variable {c : Char} {mark s : List Char}

/-- In front of a text, characters other than the first one of the mark do not matter. -/
theorem infix_append_iff (before : List Char) (h : c ∉ before) :
    c :: mark <:+: before ++ s ↔ c :: mark <:+: s := by
  induction before with
  | nil => rfl
  | cons d before ih =>
    have hd := List.ne_of_not_mem_cons h
    have hbefore := List.not_mem_of_not_mem_cons h
    have hprefix : ¬ c :: mark <+: d :: (before ++ s) :=
      fun hp => hd (List.cons_prefix_cons.mp hp).1
    rw [List.cons_append, List.infix_cons_iff, or_iff_right hprefix, ih hbefore]

/-- A prefix without a character ends before it. -/
theorem prefix_of_prefix_append_cons {word before after : List Char} (hword : c ∉ word)
    (h : word <+: before ++ c :: after) : word <+: before := by
  rcases List.prefix_or_prefix_of_prefix h
    (List.prefix_append before (c :: after)) with hprefix | ⟨rest, rfl⟩
  · exact hprefix
  · rw [List.prefix_append_right_inj] at h
    cases rest with
    | nil => simp
    | cons d rest =>
      obtain ⟨rfl, -⟩ := List.cons_prefix_cons.mp h
      exact absurd (by simp) hword

/-- A word behind a line feed starts a line, and not the first one. -/
theorem exists_line_of_infix {word : List Char} (hword : '\n' ∉ word) {lines : List (List Char)}
    (hlines : ∀ line ∈ lines, '\n' ∉ line) (h : '\n' :: word <:+: ['\n'].intercalate lines) :
    ∃ line ∈ lines.tail, word <+: line := by
  induction lines with
  | nil => exact absurd (h.subset (List.mem_cons_self ..)) List.not_mem_nil
  | cons first rest ih =>
    obtain ⟨hfirst, hrest⟩ := List.forall_mem_cons.mp hlines
    cases rest with
    | nil =>
      rw [List.intercalate_singleton] at h
      exact absurd (h.subset (List.mem_cons_self ..)) hfirst
    | cons second rest =>
      rw [List.intercalate_cons_cons, List.append_assoc, infix_append_iff first hfirst,
        List.singleton_append, List.infix_cons_iff, List.cons_prefix_cons] at h
      rcases h with ⟨-, hprefix⟩ | hinfix
      · refine ⟨second, List.mem_cons_self .., ?_⟩
        -- the word has no line feed, so that it ends before the second line does
        cases rest with
        | nil => simpa using hprefix
        | cons third rest =>
          rw [List.intercalate_cons_cons, List.append_assoc, List.singleton_append] at hprefix
          exact prefix_of_prefix_append_cons hword hprefix
      · obtain ⟨line, hline, hprefix⟩ := ih hrest hinfix
        exact ⟨line, List.mem_cons_of_mem _ hline, hprefix⟩

end Places

end SelectBuilder.Text
