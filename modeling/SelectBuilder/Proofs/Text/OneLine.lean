import SelectBuilder.Proofs.Number.Characters
import SelectBuilder.Proofs.Text.Balance
import SelectBuilder.Proofs.Text.Literal

/-! Texts without a line feed. Escaped texts are such texts, whatever is escaped, so that a
statement has a line feed only where one was put between its lines. -/
namespace SelectBuilder.Text

def OneLine (s : String) : Prop :=
  '\n' ∉ s.toList

instance (s : String) : Decidable (OneLine s) :=
  inferInstanceAs (Decidable ('\n' ∉ s.toList))

@[simp] theorem oneLine_append {s t : String} : OneLine (s ++ t) ↔ OneLine s ∧ OneLine t := by
  rw [OneLine, OneLine, OneLine, String.toList_append, List.mem_append, not_or]

theorem oneLine_ofList {s : List Char} : OneLine (String.ofList s) ↔ '\n' ∉ s := by
  rw [OneLine, String.toList_ofList]

theorem oneLine_of_bare {s : String} (h : bare s.toList = true) : OneLine s :=
  fun hs => absurd (List.all_eq_true.mp h '\n' hs) (by decide)

theorem oneLine_escape (s : String) : OneLine (escape s) := by
  rw [escape, oneLine_ofList, List.mem_flatMap]
  rintro ⟨c, -, hc⟩
  unfold escapeChar at hc
  split at hc
  next letter hletter =>
    -- no escape has the line feed as its letter, since that letter stands for no other character
    obtain rfl : '\n' = letter := by simpa using hc
    obtain rfl := unescapeLetter_of_escapeLetter? hletter
    exact absurd hletter (by decide)
  next hnone =>
    obtain rfl := List.mem_singleton.mp hc
    exact absurd hnone (by decide)

theorem oneLine_quote (s : String) : OneLine (quote s) := by
  simp +decide [quote, oneLine_escape]

/-- What a pattern adds to the body of a literal are backslashes. -/
theorem mem_likeChars {c : Char} {s : List Char} (h : c ∈ likeChars s) : c ∈ s ∨ c = '\\' := by
  fun_induction likeChars s <;> grind

theorem oneLine_likeBody {s : String} (h : OneLine s) : OneLine (likeBody s) := by
  rw [likeBody, oneLine_ofList]
  intro hs
  rcases mem_likeChars hs with hs | hs
  · exact h hs
  · exact absurd hs (by decide)

theorem mem_fillChars {c : Char} {value pattern : List Char} (h : c ∈ fillChars value pattern) :
    c ∈ value ∨ c ∈ pattern := by
  fun_induction fillChars value pattern <;> grind

theorem oneLine_fill {pattern value : String} (hp : OneLine pattern) (hv : OneLine value) :
    OneLine (fill pattern value) := by
  rw [fill, oneLine_ofList]
  exact fun h => (mem_fillChars h).elim hv hp

theorem oneLine_intercalate {separator : String} (hs : OneLine separator) {items : List String}
    (h : ∀ s ∈ items, OneLine s) : OneLine (separator.intercalate items) := by
  match items with
  | [] => simp [OneLine]
  | [s] => simpa using h s (List.mem_singleton_self s)
  | s :: t :: rest =>
    obtain ⟨hfirst, hmore⟩ := List.forall_mem_cons.mp h
    rw [String.intercalate_cons_cons, oneLine_append, oneLine_append]
    exact ⟨⟨hfirst, hs⟩, oneLine_intercalate hs hmore⟩

theorem oneLine_commaJoin {items : List String} (h : ∀ s ∈ items, OneLine s) :
    OneLine (commaJoin items) :=
  oneLine_intercalate (by decide) h

theorem oneLine_identifier {name : String} (h : OneLine name) : OneLine (identifier name) := by
  simp +decide [identifier, h]

/-- Lines that are joined by line feeds are found again by cutting at them. -/
theorem splitOn_lines {lines : List String} (hne : lines ≠ []) (h : ∀ s ∈ lines, OneLine s) :
    ("\n".intercalate lines).toList.splitOn '\n' = lines.map String.toList := by
  rw [String.toList_intercalate]
  exact List.splitOn_intercalate '\n' (List.forall_mem_map.mpr h) (by simpa using hne)

end SelectBuilder.Text
