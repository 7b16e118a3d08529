import Mathlib.Data.List.DropRight
import SelectBuilder.Text.Blank

/-! Trimming takes what stands around a text and leaves the text. -/
namespace SelectBuilder.Text

variable {p : Char → Bool} {before s after : List Char}

theorem dropEndWhile_eq_rdropWhile (p : Char → Bool) (s : List Char) :
    dropEndWhile p s = s.rdropWhile p :=
  rfl

theorem dropEndWhile_append (h : ∀ c ∈ after, p c = true) :
    dropEndWhile p (s ++ after) = dropEndWhile p s := by
  rw [dropEndWhile, dropEndWhile, List.reverse_append, List.dropWhile_append_of_pos]
  exact fun c hc => h c (List.mem_reverse.mp hc)

theorem dropEndWhile_eq_self (h : ∀ c ∈ s, p c = false) : dropEndWhile p s = s := by
  rw [dropEndWhile_eq_rdropWhile, List.rdropWhile_eq_self_iff]
  intro hs
  rw [h _ (List.getLast_mem hs)]
  decide

theorem trimChars_eq_self (hfirst : ∀ c ∈ s.head?, isBlank c = false)
    (hlast : ∀ c ∈ s.getLast?, isBlank c = false) :
    trimChars s = s := by
  have hfront : s.dropWhile isBlank = s := by
    cases s with
    | nil => rfl
    | cons c s => rw [List.dropWhile_cons_of_neg (by rw [hfirst c rfl]; decide)]
  rw [trimChars, hfront, dropEndWhile_eq_rdropWhile, List.rdropWhile_eq_self_iff]
  intro hs
  rw [hlast _ (List.getLast?_eq_some_getLast hs)]
  decide

/-- White space at both ends of a text that has none of its own. -/
theorem trimChars_surrounded (hbefore : ∀ c ∈ before, isBlank c = true)
    (hs : ∀ c ∈ s, isBlank c = false) (hafter : ∀ c ∈ after, isBlank c = true) :
    trimChars (before ++ s ++ after) = s := by
  have hrest : ∀ rest, (before ++ rest).dropWhile isBlank = rest.dropWhile isBlank := fun rest =>
    List.dropWhile_append_of_pos hbefore
  rw [trimChars, List.append_assoc, hrest]
  cases s with
  | nil =>
    rw [List.nil_append, List.dropWhile_eq_nil_iff.mpr hafter]
    rfl
  | cons c s =>
    have hc := hs c (List.mem_cons_self ..)
    rw [List.cons_append, List.dropWhile_cons_of_neg (by rw [hc]; decide), ← List.cons_append,
      dropEndWhile_append hafter, dropEndWhile_eq_self hs]

/-- Whatever the text, nothing but white space is taken from it. -/
theorem exists_trimChars_surrounded (s : List Char) :
    ∃ before after, s = before ++ trimChars s ++ after ∧
    (∀ c ∈ before, isBlank c = true) ∧ ∀ c ∈ after, isBlank c = true := by
  refine ⟨s.takeWhile isBlank, (s.dropWhile isBlank).rtakeWhile isBlank, ?_, ?_, ?_⟩
  · rw [trimChars, dropEndWhile_eq_rdropWhile, List.append_assoc, List.rdropWhile_append_rtakeWhile,
      List.takeWhile_append_dropWhile]
  · exact fun c hc => List.mem_takeWhile_imp hc
  · exact fun c hc => List.mem_rtakeWhile_imp hc

theorem trim_eq_self {s : String} (h : ∀ c ∈ s.toList, isBlank c = false) : trim s = s := by
  have hchars : trimChars ([] ++ s.toList ++ []) = s.toList := trimChars_surrounded nofun h nofun
  rw [List.nil_append, List.append_nil] at hchars
  rw [trim, hchars, String.ofList_toList]

end SelectBuilder.Text
