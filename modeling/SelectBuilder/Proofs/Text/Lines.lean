import SelectBuilder.Proofs.Text.OneLine
import SelectBuilder.Text.Lines

/-! Rows that are written one a line are the filled lines of the text, however the lines end and
whatever blank lines lie among them. All that a row may lose is a return at its end, which the line
feed behind it takes along. -/
namespace SelectBuilder.Text

section Chars

variable {line rest : List Char}

theorem lines_cons {c : Char} {s line : List Char} {more : List (List Char)} (hc : c ≠ '\n')
    (hreturn : c = '\r' → s.head? ≠ some '\n') (h : lines s = line :: more) :
    lines (c :: s) = (c :: line) :: more := by
  rw [lines.eq_4 c s (fun rest hr hs => hreturn hr (by rw [hs]; rfl)) (fun hn => hc hn), h]

theorem head?_ne_feed (h : '\n' ∉ line) (hrest : line = [] → rest.head? ≠ some '\n') :
    (line ++ rest).head? ≠ some '\n' := by
  cases line with
  | nil => exact hrest rfl
  | cons c line =>
    intro hhead
    obtain rfl := Option.some.inj hhead
    exact h (List.mem_cons_self ..)

theorem lines_append_returnFeed (h : '\n' ∉ line) :
    lines (line ++ '\r' :: '\n' :: rest) = line :: lines rest := by
  induction line with
  | nil => rfl
  | cons c line ih =>
    obtain ⟨hc, hline⟩ := not_or.mp (List.mem_cons.not.mp h)
    exact lines_cons (Ne.symm hc) (fun _ => head?_ne_feed hline fun _ => by simp) (ih hline)

theorem lines_append_feed (h : '\n' ∉ line) (hreturn : line.getLast? ≠ some '\r') :
    lines (line ++ '\n' :: rest) = line :: lines rest := by
  induction line with
  | nil => rfl
  | cons c line ih =>
    obtain ⟨hc, hline⟩ := not_or.mp (List.mem_cons.not.mp h)
    have hlast : line.getLast? ≠ some '\r' := by
      cases line with
      | nil => exact nofun
      | cons d line => rwa [List.getLast?_cons_cons] at hreturn
    have hfront : c = '\r' → (line ++ '\n' :: rest).head? ≠ some '\n' := by
      rintro rfl
      exact head?_ne_feed hline fun hnil => absurd (by rw [hnil]; rfl) hreturn
    exact lines_cons (Ne.symm hc) hfront (ih hline hlast)

theorem lines_last (h : '\n' ∉ line) (hne : line ≠ []) : lines line = [line] := by
  induction line with
  | nil => exact absurd rfl hne
  | cons c line ih =>
    obtain ⟨hc, hline⟩ := not_or.mp (List.mem_cons.not.mp h)
    cases line with
    | nil => rw [lines.eq_4 c [] (fun _ _ => nofun) (fun hn => hc hn.symm), lines]
    | cons d line =>
      have hfront : (d :: line).head? ≠ some '\n' := by
        rw [← List.append_nil (d :: line)]
        exact head?_ne_feed hline nofun
      exact lines_cons (Ne.symm hc) (fun _ => hfront) (ih hline nofun)

end Chars

inductive LineEnd where
  | feed
  | returnFeed

def LineEnd.text : LineEnd → String
  | .feed => "\n"
  | .returnFeed => "\r\n"

/-- A text with the rows in their order, each on a line of its own, among any number of blank lines.
Every line ends in its own way, and the last one may end with the text. -/
inductive Lists : List String → String → Prop
  | lastBlank {line : String} (hline : OneLine line) (hblank : isBlankText line = true) :
      Lists [] line
  | lastRow (row : String) : Lists [row] row
  | blank {line : String} (hline : OneLine line) (hblank : isBlankText line = true)
      (ending : LineEnd) {rows : List String} {rest : String} (h : Lists rows rest) :
      Lists rows (line ++ ending.text ++ rest)
  | row (row : String) (ending : LineEnd) {rows : List String} {rest : String}
      (h : Lists rows rest) :
      Lists (row :: rows) (row ++ ending.text ++ rest)

def UpToReturn (s t : String) : Prop :=
  s = t ∨ s = t ++ "\r"

theorem UpToReturn.isBlankText {s t : String} (h : UpToReturn s t) :
    isBlankText s = isBlankText t := by
  rcases h with rfl | rfl
  · rfl
  · rw [Text.isBlankText, Text.isBlankText, String.toList_append, List.all_append]
    simp +decide

theorem filledLines_last {line : String} (h : OneLine line) :
    filledLines line = [line].filter (!isBlankText ·) := by
  by_cases hne : line.toList = []
  · obtain rfl : line = "" := String.toList_eq_nil_iff.mp hne
    rfl
  · rw [filledLines, lines_last h hne, List.map_singleton, String.ofList_toList]

/-- A line in front of others, whatever it ends with. -/
theorem exists_filledLines_line {line : String} (h : OneLine line) (ending : LineEnd)
    (rest : String) :
    ∃ kept, UpToReturn line kept ∧
      filledLines (line ++ ending.text ++ rest) = [kept].filter (!isBlankText ·) ++
      filledLines rest := by
  have hfilled {kept : String} (hlines : lines (line ++ ending.text ++ rest).toList =
      kept.toList :: lines rest.toList) :
      filledLines (line ++ ending.text ++ rest) = [kept].filter (!isBlankText ·) ++
      filledLines rest := by
    rw [filledLines, hlines, List.map_cons, String.ofList_toList, ← List.singleton_append,
      List.filter_append]
    rfl
  have hchars : (line ++ ending.text ++ rest).toList =
      line.toList ++ (ending.text.toList ++ rest.toList) := by
    rw [String.toList_append, String.toList_append, List.append_assoc]
  cases ending with
  | returnFeed => exact ⟨line, .inl rfl, hfilled (by rw [hchars]; exact lines_append_returnFeed h)⟩
  | feed =>
    by_cases hreturn : line.toList.getLast? = some '\r'
    · -- the line feed takes the return at the end of the line along
      obtain ⟨front, hfront⟩ := List.getLast?_eq_some_iff.mp hreturn
      have hkept : '\n' ∉ front := fun hmem => h (by rw [hfront]; exact List.mem_append_left _ hmem)
      refine ⟨String.ofList front, .inr ?_, hfilled ?_⟩
      · rw [← String.ofList_toList (s := line), hfront, String.ofList_append]
      · rw [hchars, hfront, List.append_assoc, String.toList_ofList]
        exact lines_append_returnFeed hkept
    · exact ⟨line, .inl rfl, hfilled (by rw [hchars]; exact lines_append_feed h hreturn)⟩

/-- No row is lost, merged or moved. -/
theorem filledLines_of_lists {rows : List String} {body : String} (h : Lists rows body)
    (hrows : ∀ row ∈ rows, OneLine row ∧ isBlankText row = false) :
    List.Forall₂ UpToReturn rows (filledLines body) := by
  induction h with
  | lastBlank hline hblank =>
    rw [filledLines_last hline, List.filter_singleton, hblank]
    exact .nil
  | lastRow row =>
    obtain ⟨hline, hfilled⟩ := hrows row (List.mem_singleton_self row)
    rw [filledLines_last hline, List.filter_singleton, hfilled]
    exact .cons (.inl rfl) .nil
  | blank hline hblank ending _ ih =>
    obtain ⟨kept, hkept, hlines⟩ := exists_filledLines_line hline ending _
    rw [hlines, List.filter_singleton, ← hkept.isBlankText, hblank]
    exact ih hrows
  | row row ending _ ih =>
    obtain ⟨⟨hline, hfilled⟩, hrest⟩ := List.forall_mem_cons.mp hrows
    obtain ⟨kept, hkept, hlines⟩ := exists_filledLines_line hline ending _
    rw [hlines, List.filter_singleton, ← hkept.isBlankText, hfilled]
    exact .cons hkept (ih hrest)

end SelectBuilder.Text
