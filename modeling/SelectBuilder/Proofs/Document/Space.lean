import Mathlib.Data.List.TakeWhile
import SelectBuilder.Proofs.Document.Parts

/-!
White space behind a document changes nothing for its reader, whether the reader succeeds or fails.
The fuel that the reader takes from the length of the text lasts, so that more of it changes nothing
either.
-/
namespace SelectBuilder.Document

variable {α β : Type} {s w : List Char}

theorem skipSpace_append (hw : AllSpace w) (s : List Char) :
    skipSpace (s ++ w) = if skipSpace s = [] then [] else skipSpace s ++ w := by
  induction s with
  | nil => exact List.dropWhile_eq_nil_iff.mpr hw
  | cons c s ih =>
    rw [List.cons_append, skipSpace, skipSpace, List.dropWhile_cons, List.dropWhile_cons]
    split
    next => exact ih
    next => rfl

section First

def first? (read : Char → List Char → Option (α × List Char)) (s : List Char) :
    Option (α × List Char) :=
  match skipSpace s with
  | [] => none
  | c :: rest => read c rest

theorem first?_append (hw : AllSpace w) {read more : Char → List Char → Option (α × List Char)}
    (h : ∀ c t, t.length < s.length → more c (t ++ w) = leaving w (read c t)) :
    first? more (s ++ w) = leaving w (first? read s) := by
  rw [first?, first?, skipSpace_append hw]
  have hlength := (skipSpace_suffix s).length_le
  cases hs : skipSpace s with
  | nil => rfl
  | cons c t =>
    rw [hs, List.length_cons] at hlength
    rw [if_neg (List.cons_ne_nil c t)]
    exact h c t hlength

theorem ends_first? {read : Char → List Char → Option (α × List Char)}
    (h : ∀ c t, Ends (c :: t) (read c t)) (s : List Char) : Ends s (first? read s) := by
  rw [first?]
  have hsuffix := skipSpace_suffix s
  cases hs : skipSpace s with
  | nil => exact ends_none
  | cons c t =>
    rw [hs] at hsuffix
    exact (h c t).of_suffix hsuffix

/-- What stands in brackets: nothing if the closing one comes first. -/
def enclosed? (close : Char) (read : List Char → Option (List α × List Char)) :
    List Char → Option (List α × List Char) :=
  first? fun c rest => if c = close then some ([], rest) else read (c :: rest)

/-- What comes behind an entry in brackets: a comma and further entries, or the closing bracket. -/
def continued? (close : Char) (read : List Char → Option (List α × List Char)) (a : α) :
    List Char → Option (List α × List Char) :=
  first? fun c rest =>
    if c = ',' then (read rest).map fun (entries, rest) => (a :: entries, rest)
    else if c = close then some ([a], rest)
    else none

def after? (c : Char) (read : List Char → Option (α × List Char)) :
    List Char → Option (α × List Char) :=
  first? fun d rest => if d = c then read rest else none

def member? (value : List Char → Option (Document × List Char)) (s : List Char) :
    Option ((Option String × Document) × List Char) :=
  (after? '"' string? s).bind fun (key, rest) => (after? ':' value rest).map fun (v, rest) =>
    ((key, v), rest)

def begun? (fuel : Nat) (c : Char) (rest : List Char) : Option (Document × List Char) :=
  if c = '\x7b' then (enclosed? '\x7d' (members? fuel) rest).map fun (members, rest) =>
    (.object members, rest)
  else if c = '[' then (enclosed? ']' (items? fuel) rest).map fun (items, rest) =>
    (.array items, rest)
  else if c = '"' then (string? rest).map fun (s, rest) => (.string s, rest)
  else if c = '-' then number? true rest
  else if c = 'n' then word? "ull" .null rest
  else if c = 't' then word? "rue" (.bool true) rest
  else if c = 'f' then word? "alse" (.bool false) rest
  else number? false (c :: rest)

theorem value?_nil : ∀ fuel, value? fuel [] = none
  | 0 => rfl
  | _ + 1 => rfl

theorem items?_nil : ∀ fuel, items? fuel [] = none
  | 0 => rfl
  | fuel + 1 => by rw [items?, value?_nil]; rfl

theorem members?_nil : ∀ fuel, members? fuel [] = none
  | 0 => rfl
  | _ + 1 => rfl

theorem enclosed?_members (fuel : Nat) (s : List Char) :
    (match skipSpace s with
      | '\x7d' :: rest => some (object [], rest)
      | rest => (members? fuel rest).map fun (members, rest) => (object members, rest)) =
      (enclosed? '\x7d' (members? fuel) s).map fun (members, rest) => (object members, rest) := by
  rw [enclosed?, first?]
  cases skipSpace s with
  | nil =>
    dsimp only
    rw [members?_nil, Option.map_none]
  | cons c t =>
    dsimp only
    split
    next rest heq =>
      obtain ⟨rfl, rfl⟩ := List.cons.inj heq
      rw [if_pos rfl]
      rfl
    next hclose => rw [if_neg (by rintro rfl; exact hclose t rfl)]

theorem enclosed?_items (fuel : Nat) (s : List Char) :
    (match skipSpace s with
      | ']' :: rest => some (array [], rest)
      | rest => (items? fuel rest).map fun (items, rest) => (array items, rest)) =
      (enclosed? ']' (items? fuel) s).map fun (items, rest) => (array items, rest) := by
  rw [enclosed?, first?]
  cases skipSpace s with
  | nil =>
    dsimp only
    rw [items?_nil, Option.map_none]
  | cons c t =>
    dsimp only
    split
    next rest heq =>
      obtain ⟨rfl, rfl⟩ := List.cons.inj heq
      rw [if_pos rfl]
      rfl
    next hclose => rw [if_neg (by rintro rfl; exact hclose t rfl)]

theorem value?_succ (fuel : Nat) (s : List Char) :
    value? (fuel + 1) s = first? (begun? fuel) s := by
  rw [value?, first?]
  cases skipSpace s with
  | nil => rfl
  | cons c t =>
    dsimp only
    split
    next rest heq =>
      obtain ⟨rfl, rfl⟩ := List.cons.inj heq
      exact enclosed?_members fuel t
    next rest heq =>
      obtain ⟨rfl, rfl⟩ := List.cons.inj heq
      exact enclosed?_items fuel t
    iterate 5
      next rest heq =>
        obtain ⟨rfl, rfl⟩ := List.cons.inj heq
        rfl
    next hobject harray hstring hminus hnull htrue hfalse =>
      rw [begun?, if_neg, if_neg, if_neg, if_neg, if_neg, if_neg, if_neg]
      all_goals rintro rfl
      · exact hfalse t rfl
      · exact htrue t rfl
      · exact hnull t rfl
      · exact hminus t rfl
      · exact hstring t rfl
      · exact harray t rfl
      · exact hobject t rfl

theorem continued?_items (fuel : Nat) (item : Document) (s : List Char) :
    (match skipSpace s with
      | ',' :: rest => (items? fuel rest).bind fun (items, rest) => some (item :: items, rest)
      | ']' :: rest => some ([item], rest)
      | _ => none) = continued? ']' (items? fuel) item s := by
  rw [continued?, first?]
  cases skipSpace s with
  | nil => rfl
  | cons c t =>
    dsimp only
    split
    next rest heq =>
      obtain ⟨rfl, rfl⟩ := List.cons.inj heq
      rw [if_pos rfl]
      cases items? fuel t <;> rfl
    next rest heq =>
      obtain ⟨rfl, rfl⟩ := List.cons.inj heq
      rfl
    next hcomma hclose =>
      rw [if_neg (by rintro rfl; exact hcomma t rfl), if_neg (by rintro rfl; exact hclose t rfl)]

theorem continued?_members (fuel : Nat) (entry : Option String × Document) (s : List Char) :
    (match skipSpace s with
      | ',' :: rest =>
        (members? fuel rest).bind fun (members, rest) => some (entry :: members, rest)
      | '\x7d' :: rest => some ([entry], rest)
      | _ => none) = continued? '\x7d' (members? fuel) entry s := by
  rw [continued?, first?]
  cases skipSpace s with
  | nil => rfl
  | cons c t =>
    dsimp only
    split
    next rest heq =>
      obtain ⟨rfl, rfl⟩ := List.cons.inj heq
      rw [if_pos rfl]
      cases members? fuel t <;> rfl
    next rest heq =>
      obtain ⟨rfl, rfl⟩ := List.cons.inj heq
      rfl
    next hcomma hclose =>
      rw [if_neg (by rintro rfl; exact hcomma t rfl), if_neg (by rintro rfl; exact hclose t rfl)]

theorem items?_succ (fuel : Nat) (s : List Char) :
    items? (fuel + 1) s = (value? fuel s).bind fun (item, rest) =>
      continued? ']' (items? fuel) item rest := by
  rw [items?]
  cases value? fuel s with
  | none => rfl
  | some r => exact continued?_items fuel r.1 r.2

theorem members?_succ (fuel : Nat) (s : List Char) :
    members? (fuel + 1) s =
      (member? (value? fuel) s).bind fun (entry, rest) =>
        continued? '\x7d' (members? fuel) entry rest := by
  rw [members?, member?, after?, first?]
  cases skipSpace s with
  | nil => rfl
  | cons c t =>
    dsimp only
    split
    next more heq =>
      obtain ⟨rfl, rfl⟩ := List.cons.inj heq
      rw [if_pos rfl]
      cases string? t with
      | none => rfl
      | some r =>
        obtain ⟨key, rest⟩ := r
        simp only [Option.bind_eq_bind, Option.bind_some, after?, first?]
        cases skipSpace rest with
        | nil => rfl
        | cons d u =>
          dsimp only
          split
          next more heq =>
            obtain ⟨rfl, rfl⟩ := List.cons.inj heq
            rw [if_pos rfl]
            cases value? fuel u with
            | none => rfl
            | some r => exact continued?_members fuel (key, r.1) r.2
          next hcolon =>
            rw [if_neg (by rintro rfl; exact hcolon u rfl)]
            rfl
    next hquote =>
      rw [if_neg (by rintro rfl; exact hquote t rfl)]
      rfl

end First

theorem ends_enclosed? {close : Char} {read : List Char → Option (List α × List Char)}
    (h : ∀ t, Ends t (read t)) (s : List Char) : Ends s (enclosed? close read s) := by
  refine ends_first? (fun c t => ?_) s
  split
  next => exact ends_some [] (List.suffix_cons c t)
  next => exact h (c :: t)

theorem ends_continued? {close : Char} {read : List Char → Option (List α × List Char)}
    (h : ∀ t, Ends t (read t)) (a : α) (s : List Char) : Ends s (continued? close read a s) := by
  refine ends_first? (fun c t => ?_) s
  split
  next => exact ((h t).map _).of_suffix (List.suffix_cons c t)
  next =>
    split
    next => exact ends_some [a] (List.suffix_cons c t)
    next => exact ends_none

theorem ends_after? {c : Char} {read : List Char → Option (α × List Char)}
    (h : ∀ t, Ends t (read t)) (s : List Char) : Ends s (after? c read s) := by
  refine ends_first? (fun d t => ?_) s
  split
  next => exact (h t).of_suffix (List.suffix_cons d t)
  next => exact ends_none

theorem ends_member? {value : List Char → Option (Document × List Char)} (h : ∀ t, Ends t (value t))
    (s : List Char) :
    Ends s (member? value s) :=
  (ends_after? ends_string? s).bind fun _ rest => (ends_after? h rest).map _

theorem ends_readers (fuel : Nat) : (∀ s, Ends s (value? fuel s)) ∧ (∀ s, Ends s (items? fuel s)) ∧
    ∀ s, Ends s (members? fuel s) := by
  induction fuel with
  | zero => exact ⟨fun _ => ends_none, fun _ => ends_none, fun _ => ends_none⟩
  | succ fuel ih =>
    obtain ⟨hvalue, hitems, hmembers⟩ := ih
    refine ⟨fun s => ?value, fun s => ?items, fun s => ?members⟩
    case value =>
      rw [value?_succ]
      refine ends_first? (fun c t => ?_) s
      have htail : t <:+ c :: t := List.suffix_cons c t
      unfold begun?
      split_ifs
      · exact ((ends_enclosed? hmembers t).map _).of_suffix htail
      · exact ((ends_enclosed? hitems t).map _).of_suffix htail
      · exact ((ends_string? t).map _).of_suffix htail
      · exact (ends_number? true t).of_suffix htail
      · exact (ends_word? _ _ t).of_suffix htail
      · exact (ends_word? _ _ t).of_suffix htail
      · exact (ends_word? _ _ t).of_suffix htail
      · exact ends_number? false (c :: t)
    case items =>
      rw [items?_succ]
      exact (hvalue s).bind fun item rest => ends_continued? hitems item rest
    case members =>
      rw [members?_succ]
      exact (ends_member? hvalue s).bind fun entry rest => ends_continued? hmembers entry rest

section Appending

variable {read more : List Char → Option (List α × List Char)}

theorem enclosed?_append (hw : AllSpace w) {close : Char}
    (h : ∀ t, t.length ≤ s.length → more (t ++ w) = leaving w (read t)) :
    enclosed? close more (s ++ w) = leaving w (enclosed? close read s) := by
  refine first?_append hw fun c t ht => ?_
  rw [← List.cons_append, h (c :: t) ht]
  split <;> rfl

theorem continued?_append (hw : AllSpace w) {close : Char} {a : α}
    (h : ∀ t, t.length < s.length → more (t ++ w) = leaving w (read t)) :
    continued? close more a (s ++ w) = leaving w (continued? close read a s) := by
  refine first?_append hw fun c t ht => ?_
  rw [h t ht]
  split
  next => exact (leaving_map ..).symm
  next => split <;> rfl

theorem after?_append (hw : AllSpace w) {c : Char} {read more : List Char → Option (α × List Char)}
    (h : ∀ t, t.length < s.length → more (t ++ w) = leaving w (read t)) :
    after? c more (s ++ w) = leaving w (after? c read s) := by
  refine first?_append hw fun d t ht => ?_
  rw [h t ht]
  split <;> rfl

theorem leaving_bind {x : Option (α × List Char)} {f g : α × List Char → Option (β × List Char)}
    (h : ∀ a rest, x = some (a, rest) → g (a, rest ++ w) = leaving w (f (a, rest))) :
    (leaving w x).bind g = leaving w (x.bind f) := by
  cases x with
  | none => rfl
  | some r => exact h r.1 r.2 rfl

theorem member?_append (hw : AllSpace w) {value more : List Char → Option (Document × List Char)}
    (h : ∀ t, t.length < s.length → more (t ++ w) = leaving w (value t)) :
    member? more (s ++ w) = leaving w (member? value s) := by
  rw [member?, member?, after?_append hw fun t _ => string?_append hw t]
  refine leaving_bind fun key rest hkey => ?_
  have hrest := (ends_after? ends_string? s key rest hkey).length_le
  dsimp only
  rw [after?_append hw fun t ht => h t (by omega)]
  exact (leaving_map ..).symm

end Appending

/-- With enough fuel, white space behind the text and more fuel change nothing. -/
theorem readers_append (hw : AllSpace w) (extra fuel : Nat) :
    (∀ s, 2 * s.length + 1 ≤ fuel → value? (fuel + extra) (s ++ w) = leaving w (value? fuel s)) ∧
    (∀ s, 2 * s.length + 2 ≤ fuel → items? (fuel + extra) (s ++ w) = leaving w (items? fuel s)) ∧
      ∀ s, 2 * s.length + 1 ≤ fuel →
        members? (fuel + extra) (s ++ w) = leaving w (members? fuel s) := by
  induction fuel with
  | zero => exact ⟨fun _ h => by omega, fun _ h => by omega, fun _ h => by omega⟩
  | succ fuel ih =>
    obtain ⟨hvalue, hitems, hmembers⟩ := ih
    obtain ⟨hends, -, -⟩ := ends_readers fuel
    rw [Nat.add_right_comm]
    refine ⟨fun s hs => ?value, fun s hs => ?items, fun s hs => ?members⟩
    case value =>
      rw [value?_succ, value?_succ]
      refine first?_append hw fun c t ht => ?_
      unfold begun?
      split_ifs
      · rw [enclosed?_append hw fun u hu => hmembers u (by omega)]
        exact (leaving_map ..).symm
      · rw [enclosed?_append hw fun u hu => hitems u (by omega)]
        exact (leaving_map ..).symm
      · rw [string?_append hw]
        exact (leaving_map ..).symm
      · exact number?_append hw true t
      · exact word?_append hw rfl _ t
      · exact word?_append hw rfl _ t
      · exact word?_append hw rfl _ t
      · exact number?_append hw false (c :: t)
    case items =>
      rw [items?_succ, items?_succ, hvalue s (by omega)]
      refine leaving_bind fun item rest hitem => ?_
      have hrest := (hends s item rest hitem).length_le
      exact continued?_append hw fun t ht => hitems t (by omega)
    case members =>
      rw [members?_succ, members?_succ, member?_append hw fun t ht => hvalue t (by omega)]
      refine leaving_bind fun entry rest hentry => ?_
      have hrest := (ends_member? hends s entry rest hentry).length_le
      exact continued?_append hw fun t ht => hmembers t (by omega)

theorem ofString?_append_space (s : String) {w : String} (hw : AllSpace w.toList) :
    ofString? (s ++ w) = ofString? s := by
  have hfuel : 2 * (s.toList ++ w.toList).length + 2 =
      2 * s.toList.length + 2 + 2 * w.toList.length := by
    rw [List.length_append]
    omega
  have hvalue :=
    (readers_append hw (2 * w.toList.length) (2 * s.toList.length + 2)).1 s.toList (by omega)
  simp only [ofString?, String.toList_append, hfuel, hvalue]
  cases value? (2 * s.toList.length + 2) s.toList with
  | none => rfl
  | some r =>
    obtain ⟨value, rest⟩ := r
    simp only [leaving_some, Option.bind_eq_bind, Option.bind_some, skipSpace_append hw]
    cases skipSpace rest <;> rfl

end SelectBuilder.Document
