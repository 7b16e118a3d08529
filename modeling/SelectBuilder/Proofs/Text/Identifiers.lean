import Mathlib.Algebra.Order.BigOperators.Group.List
import Mathlib.Algebra.Order.Ring.Nat
import SelectBuilder.Proofs.Text.Literal

/-! Reading lists of identifiers. To a reader a backquote ends an identifier unless a mark stands in
front of it. Which character is the mark is left open; the backquote may be its own. Identifiers are
written without marks, so that a list of them reads back as its names if and only if no name holds a
backquote or the mark. -/
namespace SelectBuilder.Text

def backquote : Char := '\x60'

section Marks

variable {mark c : Char} {name s rest : List Char}

def needsMark (mark c : Char) : Bool :=
  c = backquote || c = mark

def markChar (mark c : Char) : List Char :=
  if needsMark mark c then [mark, c] else [c]

def readName (mark : Char) : List Char → Option (List Char × List Char)
  | [] => none
  | [c] => if c = backquote then some ([], []) else none
  | c :: d :: rest =>
    if c = mark && needsMark mark d then (readName mark rest).map fun (name, after) =>
      (d :: name, after)
    else if c = backquote then some ([], d :: rest)
    else if c = mark then none
    else (readName mark (d :: rest)).map fun (name, after) => (c :: name, after)

theorem readName_end (hrest : rest.head? ≠ some backquote) :
    readName mark (backquote :: rest) = some ([], rest) := by
  cases rest with
  | nil => rfl
  | cons d rest =>
    have hd : d ≠ backquote := fun h => hrest (congrArg some h)
    -- a backquote that is the mark needs another one behind it to be inside the identifier
    have hinside : (backquote = mark && needsMark mark d) = false := by
      by_cases hmark : backquote = mark
      · simp [← hmark, needsMark, hd]
      · simp [hmark]
    rw [readName, hinside]
    simp

theorem readName_markChar (c : Char) (hrest : rest ≠ []) :
    readName mark (markChar mark c ++ rest) = (readName mark rest).map fun (name, after) =>
      (c :: name, after) := by
  unfold markChar
  split
  next hc => simp [readName, hc]
  next hc =>
    obtain ⟨d, more, rfl⟩ := List.exists_cons_of_ne_nil hrest
    have hneeds : c ≠ backquote ∧ c ≠ mark := by simpa [needsMark] using hc
    simp [readName, hneeds]

/-- An identifier with its marks reads back, whatever follows it but a backquote. -/
theorem readName_marked (hrest : rest.head? ≠ some backquote) (name : List Char) :
    readName mark (name.flatMap (markChar mark) ++ backquote :: rest) = some (name, rest) := by
  induction name with
  | nil => exact readName_end hrest
  | cons c name ih =>
    have hne : name.flatMap (markChar mark) ++ backquote :: rest ≠ [] := by simp
    rw [List.flatMap_cons, List.append_assoc, readName_markChar c hne, ih]
    rfl

/-- Nothing else reads as the name. -/
theorem eq_marked_of_readName (h : readName mark s = some (name, rest)) :
    s = name.flatMap (markChar mark) ++ backquote :: rest := by
  fun_induction readName mark s generalizing name with
  | case1 => cases h
  | case2 =>
    obtain ⟨rfl, rfl⟩ := Prod.mk.inj (Option.some.inj h)
    rfl
  | case3 => cases h
  | case4 c d more hmarked ih =>
    obtain ⟨⟨body, after⟩, hbody, heq⟩ := Option.map_eq_some_iff.mp h
    obtain ⟨rfl, rfl⟩ := Prod.mk.inj heq
    obtain ⟨hc, hd⟩ : c = mark ∧ needsMark mark d = true := by simpa using hmarked
    rw [ih hbody, hc, List.flatMap_cons, markChar, if_pos hd]
    rfl
  | case5 d more _ =>
    obtain ⟨rfl, rfl⟩ := Prod.mk.inj (Option.some.inj h)
    rfl
  | case6 => cases h
  | case7 c d more _ hend hmark ih =>
    obtain ⟨⟨body, after⟩, hbody, heq⟩ := Option.map_eq_some_iff.mp h
    obtain ⟨rfl, rfl⟩ := Prod.mk.inj heq
    have hplain : ¬ needsMark mark c = true := by simp [needsMark, hend, hmark]
    rw [ih hbody, List.flatMap_cons, markChar, if_neg hplain]
    rfl

theorem length_le_marked (mark : Char) (name : List Char) :
    name.length ≤ (name.flatMap (markChar mark)).length := by
  induction name with
  | nil => exact Nat.le_refl 0
  | cons c name ih =>
    have hchar : 1 ≤ (markChar mark c).length := by
      unfold markChar
      split <;> simp
    rw [List.flatMap_cons, List.length_append, List.length_cons]
    omega

/-- A name that needs no mark is written as it is, and any other is longer with its marks. -/
theorem length_marked_iff (mark : Char) (name : List Char) :
    (name.flatMap (markChar mark)).length = name.length ↔ ∀ c ∈ name, needsMark mark c = false := by
  induction name with
  | nil => simp
  | cons c name ih =>
    have hle := length_le_marked mark name
    rw [List.flatMap_cons, List.length_append, List.length_cons, List.forall_mem_cons,
      ← ih, markChar]
    split
    next hc =>
      simp only [hc, Bool.true_eq_false, false_and, iff_false, List.length_cons, List.length_nil]
      omega
    next hc =>
      simp only [hc, true_and, List.length_cons, List.length_nil]
      omega

end Marks

section Lists

variable {α β : Type}

/-- What a reader of items takes in is the items with a comma and a blank between them. -/
theorem eq_commaJoin_of_readItems {item : List Char → Option (β × List Char)} {text : β → String}
    (hitem : ∀ s x rest, item s = some (x, rest) → s = (text x).toList ++ rest) {fuel : Nat}
    {s rest : List Char} {xs : List β} (h : readItems item fuel s = some (xs, rest)) :
    xs ≠ [] ∧ s = (commaJoin (xs.map text)).toList ++ rest := by
  induction fuel generalizing s xs with
  | zero => cases h
  | succ fuel ih =>
    obtain ⟨⟨first, next⟩, hfirst, h⟩ := Option.bind_eq_some_iff.mp h
    have hs : s = (text first).toList ++ next := hitem s first next hfirst
    cases hmark : ", ".toList.isPrefixOf? next with
    | none =>
      simp only [hmark] at h
      obtain ⟨rfl, rfl⟩ : [first] = xs ∧ next = rest := by simpa using h
      refine ⟨List.cons_ne_nil first [], ?_⟩
      rw [hs]
      simp [commaJoin]
    | some behind =>
      simp only [hmark] at h
      obtain ⟨⟨more, last⟩, hmore, h⟩ := Option.bind_eq_some_iff.mp h
      obtain ⟨rfl, rfl⟩ : first :: more = xs ∧ last = rest := by simpa using h
      obtain ⟨hne, hbehind⟩ := ih hmore
      obtain ⟨second, others, rfl⟩ := List.exists_cons_of_ne_nil hne
      have hlist : (commaJoin ((first :: second :: others).map text)).toList =
          (text first).toList ++
          (", ".toList ++ (commaJoin ((second :: others).map text)).toList) :=
        toList_commaJoin_cons ..
      refine ⟨List.cons_ne_nil first _, ?_⟩
      rw [hs, eq_append_of_isPrefixOf? hmark, hbehind, hlist, List.append_assoc, List.append_assoc]

theorem length_commaJoin {items : List String} (h : items ≠ []) :
    (commaJoin items).toList.length + 2 = (items.map fun s => s.toList.length + 2).sum := by
  induction items with
  | nil => exact absurd rfl h
  | cons a items ih =>
    cases items with
    | nil => simp [commaJoin]
    | cons b more =>
      have hmore := ih (List.cons_ne_nil b more)
      have hmark : ", ".toList.length = 2 := rfl
      rw [toList_commaJoin_cons, List.length_append, List.length_append, List.map_cons,
        List.sum_cons, ← hmore]
      omega

/-- In equal lists none of the items is shorter than its counterpart if none is longer. -/
theorem length_eq_of_commaJoin_eq {f g : α → String} {xs : List α}
    (hle : ∀ x ∈ xs, (f x).toList.length ≤ (g x).toList.length)
    (h : commaJoin (xs.map f) = commaJoin (xs.map g)) :
    ∀ x ∈ xs, (f x).toList.length = (g x).toList.length := by
  intro x hx
  refine (hle x hx).antisymm (not_lt.mp fun hlt => ?_)
  have hne : ∀ f : α → String, xs.map f ≠ [] := fun f => List.ne_nil_of_mem (List.mem_map_of_mem hx)
  have hsum : (xs.map fun x => (f x).toList.length + 2).sum <
      (xs.map fun x => (g x).toList.length + 2).sum :=
    List.sum_lt_sum _ _ (fun y hy => Nat.add_le_add_right (hle y hy) 2) ⟨x, hx,
      Nat.add_lt_add_right hlt 2⟩
  have hf := length_commaJoin (hne f)
  have hg := length_commaJoin (hne g)
  rw [List.map_map] at hf hg
  rw [h] at hf
  exact absurd (hf.symm.trans hg) hsum.ne

end Lists

section Names

variable {mark : Char} {name : String}

/-- An identifier with a mark in front of every character that needs one. -/
def markedIdentifier (mark : Char) (name : String) : String :=
  identifier (String.ofList (name.toList.flatMap (markChar mark)))

def readIdentifier (mark : Char) : List Char → Option (String × List Char)
  | [] => none
  | c :: s =>
    if c = backquote then (readName mark s).map fun (name, rest) =>
      (String.ofList name, rest) else none

/-- The names of identifiers with a comma and a blank between them, as far as there are any. -/
def readIdentifiers (mark : Char) (s : List Char) : Option (List String × List Char) :=
  readItems (readIdentifier mark) (s.length + 1) s

theorem toList_identifier (name : String) :
    (identifier name).toList = backquote :: (name.toList ++ [backquote]) := by
  simp [identifier, backquote]

theorem readIdentifier_marked {rest : List Char} (hrest : rest.head? ≠ some backquote)
    (name : String) :
    readIdentifier mark ((markedIdentifier mark name).toList ++ rest) = some (name, rest) := by
  rw [markedIdentifier, toList_identifier, String.toList_ofList, List.cons_append,
    List.append_assoc, List.singleton_append, readIdentifier, if_pos rfl, readName_marked hrest]
  simp

theorem eq_marked_of_readIdentifier {s rest : List Char}
    (h : readIdentifier mark s = some (name, rest)) :
    s = (markedIdentifier mark name).toList ++ rest := by
  cases s with
  | nil => cases h
  | cons c s =>
    rw [readIdentifier] at h
    split at h
    next hc =>
      obtain ⟨⟨chars, after⟩, hchars, heq⟩ := Option.map_eq_some_iff.mp h
      obtain ⟨rfl, rfl⟩ := Prod.mk.inj heq
      rw [hc, eq_marked_of_readName hchars, markedIdentifier, toList_identifier,
        String.toList_ofList, String.toList_ofList, List.cons_append, List.append_assoc,
        List.singleton_append]
    next => cases h

/-- A name that a reader finds in its identifier: it holds neither a backquote nor the mark. -/
def FitsIdentifier (mark : Char) (name : String) : Prop :=
  backquote ∉ name.toList ∧ mark ∉ name.toList

instance (mark : Char) (name : String) : Decidable (FitsIdentifier mark name) :=
  inferInstanceAs (Decidable (_ ∧ _))

theorem fitsIdentifier_iff :
    FitsIdentifier mark name ↔ ∀ c ∈ name.toList, needsMark mark c = false := by
  constructor
  · rintro ⟨hquote, hmark⟩ c hc
    have hcquote : c ≠ backquote := fun h => hquote (h ▸ hc)
    have hcmark : c ≠ mark := fun h => hmark (h ▸ hc)
    simp [needsMark, hcquote, hcmark]
  · intro h
    exact ⟨fun hc => by simpa [needsMark] using h _ hc, fun hc => by simpa [needsMark] using h _ hc⟩

theorem FitsIdentifier.markedIdentifier_eq (h : FitsIdentifier mark name) :
    markedIdentifier mark name = identifier name := by
  have hchars : ∀ c ∈ name.toList, markChar mark c = [c] := fun c hc => by
    rw [markChar, fitsIdentifier_iff.mp h c hc]
    rfl
  rw [markedIdentifier, List.flatMap_congr hchars, List.flatMap_singleton', String.ofList_toList]

theorem length_identifier_le (mark : Char) (name : String) :
    (identifier name).toList.length ≤ (markedIdentifier mark name).toList.length := by
  have hle := length_le_marked mark name.toList
  rw [markedIdentifier, toList_identifier, toList_identifier, String.toList_ofList]
  simpa using hle

theorem length_identifier_eq_iff :
    (identifier name).toList.length = (markedIdentifier mark name).toList.length ↔
      FitsIdentifier mark name := by
  rw [fitsIdentifier_iff, ← length_marked_iff, markedIdentifier, toList_identifier,
    toList_identifier, String.toList_ofList]
  simp [eq_comm]

/-- What a list of identifiers does not go on with. -/
def EndsIdentifiers (rest : List Char) : Prop :=
  rest.head? ≠ some backquote ∧ rest.head? ≠ some ','

/-- A list of identifiers reads back as its names, up to what follows it, if and only if each name
fits. -/
theorem readIdentifiers_iff {names : List String} (hne : names ≠ []) {rest : List Char}
    (hrest : EndsIdentifiers rest) :
    readIdentifiers mark ((commaJoin (names.map identifier)).toList ++ rest) = some (names, rest) ↔
      ∀ name ∈ names, FitsIdentifier mark name := by
  obtain ⟨hquote, hcomma⟩ := hrest
  constructor
  · intro h
    obtain ⟨-, hmarked⟩ := eq_commaJoin_of_readItems (fun _ _ _ => eq_marked_of_readIdentifier) h
    have heq : commaJoin (names.map identifier) = commaJoin (names.map (markedIdentifier mark)) :=
      String.toList_injective (List.append_cancel_right hmarked)
    have hlength := length_eq_of_commaJoin_eq (fun name _ => length_identifier_le mark name) heq
    exact fun name hname => length_identifier_eq_iff.mp (hlength name hname)
  · intro h
    have hmarked : names.map identifier = names.map (markedIdentifier mark) :=
      List.map_congr_left fun name hname => (h name hname).markedIdentifier_eq.symm
    have hfuel : names.length ≤ ((commaJoin (names.map identifier)).toList ++ rest).length + 1 := by
      have hlength := length_le_commaJoin (names.map identifier)
      rw [List.length_map] at hlength
      rw [List.length_append]
      omega
    have hstop : ", ".toList.isPrefixOf? rest = none := by
      cases rest with
      | nil => rfl
      | cons c rest =>
        have hc : ',' ≠ c := fun h => hcomma (congrArg some h.symm)
        simp [List.isPrefixOf?, hc]
    have hread : ∀ name ∈ names, ∀ s : List Char, s.head? ≠ some backquote →
        readIdentifier mark ((markedIdentifier mark name).toList ++ s) = some (id name, s) :=
      fun name _ s hs => readIdentifier_marked hs name
    have hahead : ∀ s : List Char, (',' :: s).head? ≠ some backquote := fun s h =>
      absurd (Option.some.inj h) (by decide)
    rw [readIdentifiers, hmarked,
      readItems_commaJoin hne (hmarked ▸ hfuel) hread hahead hquote hstop, List.map_id]

end Names

end SelectBuilder.Text
