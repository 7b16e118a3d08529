import SelectBuilder.Proofs.Condition.Reading

/-! Texts of conditions that can be put together. What is made of texts that read as their values,
by joining them and by negating them, reads as the value that the connectives make of those. -/
namespace SelectBuilder

open Text (Balanced)

/-- Truth values for texts of conditions. A text under a negation has the other value. -/
structure Assignment where
  holds : String → Bool
  negates : ∀ text, holds ("NOT (" ++ text ++ ")") = !holds text

namespace Assignment

/-- The value of the text that a leaf has, if it has one. -/
def truth {ε : Type} (v : Assignment) : Except ε String → Bool
  | .ok text => v.holds text
  | .error _ => false

/-- The text under a negation. -/
def inner? (s : List Char) : Option (List Char) := do
  let s ← "NOT (".toList.isPrefixOf? s
  if s.getLast? = some ')' then some s.dropLast else none

theorem inner?_length {s t : List Char} (h : inner? s = some t) : t.length < s.length := by
  obtain ⟨u, hu, h⟩ := Option.bind_eq_some_iff.mp h
  split_ifs at h
  obtain rfl := Option.some.inj h
  have hlength : "NOT (".toList.length = 5 := rfl
  rw [Text.eq_append_of_isPrefixOf? hu, List.length_append, List.length_dropLast]
  omega

/-- Values for texts under any number of negations, from values for texts under none. -/
def extend (base : String → Bool) (s : List Char) : Bool :=
  match _h : inner? s with
  | some t => !extend base t
  | none => base (String.ofList s)
termination_by s.length
decreasing_by exact inner?_length _h

/-- Every assignment to texts under no negation can be extended. -/
def ofTexts (base : String → Bool) : Assignment where
  holds text := extend base text.toList
  negates text := by
    have hinner : inner? ("NOT (" ++ text ++ ")").toList = some text.toList := by
      rw [String.toList_append, String.toList_append, List.append_assoc, inner?,
        Text.isPrefixOf?_append]
      simp
    rw [extend]
    split
    next t ht => rw [Option.some.inj (hinner.symm.trans ht)]
    next hnone => exact absurd (hinner.symm.trans hnone) (by simp)

end Assignment

/-- A text that may stand between parentheses and that reads as an expression of the given value. -/
structure ReadsAs (v : Assignment) (text : String) (b : Bool) : Prop where
  balanced : Balanced text.toList
  value : (Clause.read text.toList).holds v.holds = b

namespace ReadsAs

variable {v : Assignment} {text name : String} {b : Bool}

theorem truth : ReadsAs v "1" true := by
  refine ⟨.of_plain rfl, ?_⟩
  have hread : Clause.read "1".toList = .truth := by
    rw [Clause.read, if_pos (by decide)]
  rw [hread]
  rfl

theorem negation (h : ReadsAs v text b) : ReadsAs v ("NOT (" ++ text ++ ")") (!b) := by
  have htext : ("NOT (" ++ text ++ ")").toList = "NOT (".toList ++ (text.toList ++ [')']) := by
    simp
  refine ⟨?_, ?_⟩
  · rw [htext]
    exact Balanced.append (s := "NOT ".toList) (.of_plain rfl) h.balanced.parenthesized
  · rw [htext, Clause.read_negated h.balanced, Clause.holds, h.value]

theorem negateText (h : ReadsAs v text b) (negated : Bool) :
    ReadsAs v (Tree.negateText negated text) (negated ^^ b) := by
  cases negated with
  | true =>
    rw [Bool.true_xor]
    exact h.negation
  | false =>
    rw [Bool.false_xor]
    exact h

theorem joinParts {mode : Connective} {texts : List String} {bs : List Bool}
    (h : List.Forall₂ (ReadsAs v) texts bs) :
    ReadsAs v (Tree.joinParts mode texts) (mode.fold bs) := by
  have hbalanced : ∀ part ∈ texts.map String.toList, Balanced part := by
    induction h with
    | nil => simp
    | cons h _ ih =>
      rw [List.map_cons, List.forall_mem_cons]
      exact ⟨h.balanced, ih⟩
  have hvalues : (texts.map String.toList).map (Clause.holds v.holds ∘ Clause.read) = bs := by
    induction h with
    | nil => rfl
    | cons h _ ih =>
      have hb := (List.forall_mem_cons.mp hbalanced).2
      rw [List.map_cons, List.map_cons, ih hb, Function.comp_apply, h.value]
  match texts, bs, h with
  | [], _, .nil =>
    rw [Connective.fold_nil]
    exact truth
  | [_], _, .cons h .nil =>
    rw [Connective.fold_singleton]
    exact h
  | first :: second :: rest, bs, _ =>
    obtain ⟨hfirst, hmore⟩ := List.forall_mem_cons.mp hbalanced
    have htext : (Tree.joinParts mode (first :: second :: rest)).toList =
        '(' :: (first.toList ++ ')' :: Clause.moreText mode ((second :: rest).map String.toList)) :=
      Clause.toList_joined mode first (second :: rest)
    refine ⟨?_, ?_⟩
    · have hgroups := hfirst.parenthesized.append (Clause.balanced_moreText mode hmore)
      rw [htext]
      simpa using hgroups
    · rw [htext, List.map_cons, Clause.read_joined hbalanced, Clause.holds, Clause.holdsEach_eq_map,
        List.map_map]
      exact congrArg mode.fold hvalues

/-- A text that is no group, no negation and not the true text is a leaf. -/
theorem leaf (hb : Balanced text.toList) (hone : text.toList ≠ ['1'])
    (hn : ∀ t, text.toList ≠ "NOT (".toList ++ t) (hg : ∀ t, text.toList ≠ '(' :: t) :
    ReadsAs v text (v.holds text) := by
  refine ⟨hb, ?_⟩
  rw [Clause.read_eq_atom hone hn hg, Clause.holds, String.ofList_toList]

/-- A text behind a name in front is a leaf, unless a parenthesis follows the name. -/
theorem behindName {rest : List Char} (hname : Text.plain name.toList = true)
    (htext : text.toList = name.toList ++ ' ' :: rest) (hrest : Balanced rest)
    (hstart : ∀ t, rest ≠ '(' :: t) : ReadsAs v text (v.holds text) := by
  have hbalanced : Balanced text.toList := by
    have hblank : Balanced (' ' :: rest) := Balanced.append (s := [' ']) (.of_plain rfl) hrest
    rw [htext]
    exact (Balanced.of_plain hname).append hblank
  have hplain : ∀ c ∈ name.toList, c ≠ '(' := fun c hc =>
    (Text.isPlain_iff.mp (List.all_eq_true.mp hname c hc)).2.1
  generalize name.toList = n at htext hplain
  refine leaf hbalanced ?_ (fun t => ?_) (fun t => ?_) <;> rw [htext] <;> intro h
  · cases n <;> simp at h
  · -- the blank behind the name would stand inside the word, before the parenthesis or in its place
    match n with
    | [] | [_] | [_, _] => simp at h
    | [_, _, _] =>
      obtain ⟨-, -, -, hrest⟩ : _ ∧ _ ∧ _ ∧ rest = '(' :: t := by simpa using h
      exact hstart t hrest
    | [_, _, _, _] => simp at h
    | _ :: _ :: _ :: _ :: e :: _ =>
      have he : e = '(' := by simp_all
      exact hplain e (by simp) he
  · cases n with
    | nil => simp at h
    | cons c n => exact hplain c (List.mem_cons_self ..) (List.cons.inj h).1

/-- A text with a name and a word in front is a leaf, whatever follows the blank behind the word. -/
theorem behindWord (word : String) {rest : List Char} (hname : Text.plain name.toList = true)
    (hword : Text.plain word.toList = true)
    (htext : text.toList = name.toList ++ ' ' :: (word.toList ++ ' ' :: rest))
    (hrest : Balanced rest) :
    ReadsAs v text (v.holds text) := by
  refine behindName hname htext ?_ fun t h => ?_
  · have hblank : Balanced (' ' :: rest) := Balanced.append (s := [' ']) (.of_plain rfl) hrest
    exact (Balanced.of_plain hword).append hblank
  · generalize word.toList = w at hword h
    cases w with
    | nil => simp at h
    | cons c w =>
      have hc := List.all_eq_true.mp hword c (List.mem_cons_self ..)
      exact (Text.isPlain_iff.mp hc).2.1 (List.cons.inj h).1

/-- A text that compares the lower case of a name with that of something else is a leaf. -/
theorem lowered (word : String) {inner : List Char} (hname : Text.plain name.toList = true)
    (hword : Text.plain word.toList = true)
    (htext : text.toList = "lowerUTF8".toList ++ ('(' :: (name.toList ++ [')']) ++
      (word.toList ++ '(' :: (inner ++ [')'])))) (hinner : Balanced inner) :
    ReadsAs v text (v.holds text) := by
  have hbalanced : Balanced text.toList := by
    have hright := (Balanced.of_plain hword).append hinner.parenthesized
    rw [htext]
    exact Balanced.append (.of_plain rfl) ((Balanced.of_plain hname).parenthesized.append hright)
  refine leaf hbalanced ?_ (fun t => ?_) (fun t => ?_) <;> rw [htext] <;> simp

end ReadsAs

namespace Tree

variable {α ε : Type}

def allLeaves : Tree α → List α :=
  fold (fun a => [a]) fun _ _ parts => parts.flatten

theorem mem_allLeaves_node {mode : Connective} {negated : Bool} {leaves : List α}
    {children : List (Tree α)} {a : α} :
    a ∈ (Tree.node mode negated leaves children).allLeaves ↔
      a ∈ leaves ∨ ∃ c ∈ written children, a ∈ c.allLeaves := by
  rw [allLeaves, fold_node]
  simp

/-- A rendered tree reads as its value if the texts of its leaves read as theirs. -/
theorem readsAs_of_leaves (v : Assignment) {leafText : α → Except ε String} {t : Tree α}
    {text : String} (hrender : t.render leafText = .ok text)
    (hleaves : ∀ a ∈ t.allLeaves, ∀ s, leafText a = .ok s → ReadsAs v s (v.holds s)) :
    ReadsAs v text (t.holds fun a => v.truth (leafText a)) := by
  induction t generalizing text with
  | node mode negated leaves children ih =>
    rw [render, renderChildren_eq_mapM] at hrender
    obtain ⟨own, hown, h⟩ := Outcome.bind_eq_ok.mp hrender
    obtain ⟨nested, hnested, h⟩ := Outcome.bind_eq_ok.mp h
    obtain rfl := Except.ok.inj h
    have howns : List.Forall₂ (ReadsAs v) own (leaves.map fun a => v.truth (leafText a)) := by
      refine Outcome.forall₂_map_of_mapM_eq_ok hown fun a ha s hs => ?_
      rw [hs]
      exact hleaves a (mem_allLeaves_node.mpr (.inl ha)) s hs
    have hnests : List.Forall₂ (ReadsAs v) nested
        ((written children).map (holds fun a => v.truth (leafText a))) := by
      refine Outcome.forall₂_map_of_mapM_eq_ok hnested fun c hc s hs => ?_
      exact ih c (List.mem_filter.mp hc).1 hs fun a ha =>
        hleaves a (mem_allLeaves_node.mpr (.inr ⟨c, hc, ha⟩))
    rw [holds_node]
    exact (ReadsAs.joinParts (List.rel_append howns hnests)).negateText negated

end Tree

end SelectBuilder
