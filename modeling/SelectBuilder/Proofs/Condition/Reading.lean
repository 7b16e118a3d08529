import SelectBuilder.Proofs.Condition.Meaning
import SelectBuilder.Proofs.Text.Balance
import SelectBuilder.Proofs.Text.Literal

/-! Reading a condition back from its text alone. The reader skips quoted literals, splits groups at
balanced parentheses, takes `NOT (..)` as a negation and `1` as true, and leaves every other text as
it is. -/
namespace SelectBuilder

namespace Clause

/-- A negation around a whole text: the text in its parentheses. -/
def negated? (s : List Char) : Option (List Char) := do
  let s ← "NOT ".toList.isPrefixOf? s
  let (body, rest) ← Text.group? s
  if rest.isEmpty then some body else none

def separator (mode : Connective) : List Char :=
  ' ' :: (mode.keyword.toList ++ [' '])

/-- A separator and a group behind it, and the rest. -/
def nextGroup? (mode : Connective) (s : List Char) : Option (List Char × List Char) := do
  let s ← (separator mode).isPrefixOf? s
  Text.group? s

theorem nextGroup?_length {mode : Connective} {s body rest : List Char}
    (h : nextGroup? mode s = some (body, rest)) : body.length + rest.length < s.length := by
  obtain ⟨t, ht, hg⟩ := Option.bind_eq_some_iff.mp h
  have := Text.group?_length hg
  rw [Text.eq_append_of_isPrefixOf? ht, List.length_append]
  omega

/-- Groups up to the end of a text, each behind the separator of the connective. -/
def moreGroups? (mode : Connective) (s : List Char) : Option (List (List Char)) :=
  if s.isEmpty then some []
  else
    match _h : nextGroup? mode s with
    | some (body, rest) => (moreGroups? mode rest).map (body :: ·)
    | none => none
termination_by s.length
decreasing_by
  have := nextGroup?_length _h
  omega

/-- At least two groups with one connective between them. -/
def joined? (mode : Connective) (s : List Char) : Option (List (List Char)) := do
  let (first, rest) ← Text.group? s
  let more ← moreGroups? mode rest
  if more.isEmpty then none else some (first :: more)

theorem moreGroups?_nil (mode : Connective) : moreGroups? mode [] = some [] := by
  rw [moreGroups?]
  rfl

theorem moreGroups?_of_next {mode : Connective} {s body rest : List Char} (hs : s ≠ [])
    (h : nextGroup? mode s = some (body, rest)) :
    moreGroups? mode s = (moreGroups? mode rest).map (body :: ·) := by
  rw [moreGroups?, if_neg (by simpa using hs)]
  split
  next b r hnext =>
    obtain ⟨rfl, rfl⟩ := Prod.mk.inj (Option.some.inj (h.symm.trans hnext))
    rfl
  next hnext => exact absurd (h.symm.trans hnext) (by simp)

theorem moreGroups?_of_none {mode : Connective} {s : List Char} (hs : s ≠ [])
    (h : nextGroup? mode s = none) : moreGroups? mode s = none := by
  rw [moreGroups?, if_neg (by simpa using hs)]
  split
  next b r hnext => exact absurd (h.symm.trans hnext) (by simp)
  next => rfl

theorem moreGroups?_length {mode : Connective} {s : List Char} {bodies : List (List Char)}
    (h : moreGroups? mode s = some bodies) : ∀ body ∈ bodies, body.length < s.length := by
  induction s using moreGroups?.induct mode generalizing bodies with
  | case1 s hs =>
    rw [moreGroups?, if_pos hs] at h
    obtain rfl := Option.some.inj h
    simp
  | case2 s hs body rest hnext ih =>
    rw [moreGroups?_of_next (by simpa using hs) hnext] at h
    obtain ⟨more, hmore, rfl⟩ := Option.map_eq_some_iff.mp h
    have hlength := nextGroup?_length hnext
    intro b hb
    rcases List.mem_cons.mp hb with rfl | hb
    · omega
    · have := ih hmore b hb
      omega
  | case3 s hs hnext =>
    rw [moreGroups?_of_none (by simpa using hs) hnext] at h
    exact absurd h (by simp)

theorem joined?_length {mode : Connective} {s : List Char} {bodies : List (List Char)}
    (h : joined? mode s = some bodies) : ∀ body ∈ bodies, body.length < s.length := by
  obtain ⟨⟨first, rest⟩, hfirst, h⟩ := Option.bind_eq_some_iff.mp h
  obtain ⟨more, hmore, h⟩ := Option.bind_eq_some_iff.mp h
  split_ifs at h with he
  obtain rfl := Option.some.inj h
  have hlength := Text.group?_length hfirst
  intro b hb
  rcases List.mem_cons.mp hb with rfl | hb
  · omega
  · have := moreGroups?_length hmore b hb
    omega

theorem negated?_length {s body : List Char} (h : negated? s = some body) :
    body.length < s.length := by
  obtain ⟨t, ht, h⟩ := Option.bind_eq_some_iff.mp h
  obtain ⟨⟨b, rest⟩, hg, h⟩ := Option.bind_eq_some_iff.mp h
  dsimp only at h
  split_ifs at h
  obtain rfl := Option.some.inj h
  have := Text.group?_length hg
  rw [Text.eq_append_of_isPrefixOf? ht, List.length_append]
  omega

theorem negated?_eq_none {s : List Char} (h : ∀ t, s ≠ "NOT (".toList ++ t) :
    negated? s = none := by
  cases hs : "NOT ".toList.isPrefixOf? s with
  | none => rw [negated?, hs]; rfl
  | some t =>
    have hgroup : Text.group? t = none := by
      refine Text.group?_eq_none fun u hu => h u ?_
      rw [Text.eq_append_of_isPrefixOf? hs, hu]
      rfl
    rw [negated?, hs]
    simp [hgroup]

/-- The expression that a text is the writing of. -/
def read (s : List Char) : Clause String :=
  if s = ['1'] then .truth
  else
    match _hn : negated? s with
    | some body => .negation (read body)
    | none =>
      match _ha : joined? .and s with
      | some bodies => .join .and (bodies.attach.map fun ⟨body, _⟩ => read body)
      | none =>
        match _ho : joined? .or s with
        | some bodies => .join .or (bodies.attach.map fun ⟨body, _⟩ => read body)
        | none => .atom (String.ofList s)
termination_by s.length
decreasing_by
  · exact negated?_length _hn
  · exact joined?_length _ha _ ‹_›
  · exact joined?_length _ho _ ‹_›

theorem read_of_negated {s body : List Char} (hone : s ≠ ['1']) (h : negated? s = some body) :
    read s = .negation (read body) := by
  rw [read, if_neg hone]
  split
  next b hb => rw [Option.some.inj (h.symm.trans hb)]
  next hb => exact absurd (h.symm.trans hb) (by simp)

theorem read_of_joined {mode : Connective} {s : List Char} {bodies : List (List Char)}
    (hone : s ≠ ['1']) (hn : negated? s = none)
    (hother : ∀ other, other ≠ mode → joined? other s = none) (h : joined? mode s = some bodies) :
    read s = .join mode (bodies.map read) := by
  rw [read, if_neg hone]
  split
  next b hb => exact absurd (hb.symm.trans hn) (by simp)
  next =>
    cases mode with
    | and =>
      split
      next b hb =>
        obtain rfl := Option.some.inj (hb.symm.trans h)
        rw [List.attach_map_val]
      next hb => exact absurd (hb.symm.trans h) (by simp)
    | or =>
      split
      next b hb => exact absurd (hb.symm.trans (hother .and (by decide))) (by simp)
      next =>
        split
        next b hb =>
          obtain rfl := Option.some.inj (hb.symm.trans h)
          rw [List.attach_map_val]
        next hb => exact absurd (hb.symm.trans h) (by simp)

theorem read_eq_atom {s : List Char} (hone : s ≠ ['1']) (hn : ∀ t, s ≠ "NOT (".toList ++ t)
    (hg : ∀ t, s ≠ '(' :: t) : read s = .atom (String.ofList s) := by
  have hn := negated?_eq_none hn
  have hj : ∀ mode, joined? mode s = none := fun mode => by
    rw [joined?, Text.group?_eq_none hg]
    rfl
  rw [read, if_neg hone]
  split
  next b hb => exact absurd (hb.symm.trans hn) (by simp)
  next =>
    split
    next b hb => exact absurd (hb.symm.trans (hj .and)) (by simp)
    next =>
      split
      next b hb => exact absurd (hb.symm.trans (hj .or)) (by simp)
      next => rfl

section Written

open Text (Balanced)

def moreText (mode : Connective) (parts : List (List Char)) : List Char :=
  parts.flatMap fun part => separator mode ++ '(' :: (part ++ [')'])

theorem toList_joined (mode : Connective) (first : String) (rest : List String) :
    ("(" ++ (") " ++ mode.keyword ++ " (").intercalate (first :: rest) ++ ")").toList =
      '(' :: (first.toList ++ ')' :: moreText mode (rest.map String.toList)) := by
  induction rest generalizing first with
  | nil => simp [moreText, String.intercalate_singleton]
  | cons second rest ih =>
    simp only [String.toList_append, String.toList_intercalate, List.map_cons] at ih ⊢
    rw [List.intercalate_cons_cons]
    simpa [moreText, separator] using ih second

theorem balanced_moreText (mode : Connective) {parts : List (List Char)}
    (h : ∀ part ∈ parts, Balanced part) : Balanced (moreText mode parts) := by
  induction parts with
  | nil => exact .nil
  | cons part rest ih =>
    obtain ⟨hpart, hrest⟩ := List.forall_mem_cons.mp h
    have hseparator : Balanced (separator mode) := by
      cases mode <;> exact .of_plain rfl
    rw [moreText, List.flatMap_cons]
    exact (hseparator.append hpart.parenthesized).append (ih hrest)

theorem nextGroup?_append {part : List Char} (h : Balanced part) (mode : Connective)
    (rest : List Char) :
    nextGroup? mode (separator mode ++ '(' :: (part ++ ')' :: rest)) = some (part, rest) := by
  rw [nextGroup?, Text.isPrefixOf?_append]
  exact h.group?_parenthesized rest

theorem nextGroup?_of_ne {mode other : Connective} (h : other ≠ mode) (s : List Char) :
    nextGroup? other (separator mode ++ s) = none := by
  cases mode <;> cases other
  · exact absurd rfl h
  · rfl
  · rfl
  · exact absurd rfl h

theorem moreGroups?_moreText {mode : Connective} {parts : List (List Char)}
    (h : ∀ part ∈ parts, Balanced part) : moreGroups? mode (moreText mode parts) = some parts := by
  induction parts with
  | nil => exact moreGroups?_nil mode
  | cons part rest ih =>
    obtain ⟨hpart, hrest⟩ := List.forall_mem_cons.mp h
    have htext : moreText mode (part :: rest) =
        separator mode ++ '(' :: (part ++ ')' :: moreText mode rest) := by
      simp [moreText]
    have hnext := nextGroup?_append hpart mode (moreText mode rest)
    rw [htext, moreGroups?_of_next (by simp [separator]) hnext, ih hrest]
    rfl

theorem read_joined {mode : Connective} {first second : List Char} {rest : List (List Char)}
    (h : ∀ part ∈ first :: second :: rest, Balanced part) :
    read ('(' :: (first ++ ')' :: moreText mode (second :: rest))) =
      .join mode ((first :: second :: rest).map read) := by
  obtain ⟨hfirst, hmore⟩ := List.forall_mem_cons.mp h
  have hgroup := hfirst.group?_parenthesized (moreText mode (second :: rest))
  refine read_of_joined (by simp) rfl (fun other ho => ?_) ?_
  · -- the other connective is refused at the first separator
    rw [joined?, hgroup]
    have hnext := nextGroup?_of_ne ho ('(' :: (second ++ [')']) ++ moreText mode rest)
    have hnone : moreGroups? other (moreText mode (second :: rest)) = none :=
      moreGroups?_of_none (by simp [moreText, separator]) (by simpa [moreText] using hnext)
    simp [hnone]
  · rw [joined?, hgroup]
    simp [moreGroups?_moreText hmore]

theorem read_negated {s : List Char} (h : Balanced s) :
    read ("NOT (".toList ++ (s ++ [')'])) = .negation (read s) := by
  refine read_of_negated (by simp) ?_
  have hgroup := h.group?_parenthesized []
  have hsplit : "NOT (".toList ++ (s ++ [')']) = "NOT ".toList ++ '(' :: (s ++ [')']) := rfl
  rw [negated?, hsplit, Text.isPrefixOf?_append]
  simp [hgroup]

end Written

end Clause

end SelectBuilder
