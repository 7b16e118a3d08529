import Mathlib.Data.List.Basic
import SelectBuilder.Text.Fragment
import SelectBuilder.Text.Quoted

/-! Parentheses outside of quoted literals. A scan over a balanced text comes back to where it
started, so the parenthesis that closes a group is the one that was written for it. -/
namespace SelectBuilder.Text

/-- The part of a statement a scan is in; `escaped` is behind a backslash of a literal. -/
inductive Region where
  | outside | inside | escaped
  deriving DecidableEq, Repr

/-- A scan over a statement: the pairs of parentheses that are open, and the region. -/
structure Cursor where
  depth : Nat
  region : Region
  deriving DecidableEq, Repr

namespace Cursor

/-- The scan behind one more character; there is none if the character closes a parenthesis too
many. -/
def next (p : Cursor) (c : Char) : Option Cursor :=
  match p.region with
  | .escaped => some { p with region := .inside }
  | .inside =>
    if c = '\\' then some { p with region := .escaped }
    else if c = '\x27' then some { p with region := .outside }
    else some p
  | .outside =>
    if c = '\x27' then some { p with region := .inside }
    else if c = '(' then some { p with depth := p.depth + 1 }
    else if c = ')' then if p.depth = 0 then none else some { p with depth := p.depth - 1 }
    else some p

def run (p : Cursor) (s : List Char) : Option Cursor :=
  s.foldlM next p

theorem run_append (p : Cursor) (s t : List Char) : p.run (s ++ t) = (p.run s).bind (·.run t) :=
  List.foldlM_append

theorem run_cons (p : Cursor) (c : Char) (s : List Char) :
    p.run (c :: s) = (p.next c).bind (·.run s) :=
  List.foldlM_cons

end Cursor

/-- The text up to the parenthesis that closes one more than were opened, and the text behind it. -/
def closeGroup (p : Cursor) : List Char → Option (List Char × List Char)
  | [] => none
  | c :: rest =>
    match p.next c with
    | none => some ([], rest)
    | some q => (closeGroup q rest).map fun (body, after) => (c :: body, after)

/-- The text between a parenthesis at the front and the one that closes it, and the text behind. -/
def group? : List Char → Option (List Char × List Char)
  | '(' :: rest => closeGroup ⟨0, .outside⟩ rest
  | _ => none

theorem closeGroup_append {p q : Cursor} {s : List Char} (h : p.run s = some q) (rest : List Char) :
    closeGroup p (s ++ rest) = (closeGroup q rest).map fun (body, after) => (s ++ body, after) := by
  induction s generalizing p with
  | nil =>
    obtain rfl : p = q := Option.some.inj h
    simp
  | cons c s ih =>
    rw [Cursor.run_cons] at h
    obtain ⟨m, hm, hq⟩ := Option.bind_eq_some_iff.mp h
    simp only [List.cons_append, closeGroup, hm, ih hq, Option.map_map]
    rfl

theorem closeGroup_length {p : Cursor} {s body after : List Char}
    (h : closeGroup p s = some (body, after)) : body.length + after.length < s.length := by
  induction s generalizing p body with
  | nil => simp [closeGroup] at h
  | cons c s ih =>
    rw [closeGroup] at h
    split at h
    next =>
      obtain ⟨rfl, rfl⟩ := Prod.mk.inj (Option.some.inj h)
      simp
    next q _ =>
      obtain ⟨⟨b, a⟩, hb, hba⟩ := Option.map_eq_some_iff.mp h
      obtain ⟨rfl, rfl⟩ := Prod.mk.inj hba
      have := ih hb
      simp only [List.length_cons]
      omega

theorem group?_length {s body after : List Char} (h : group? s = some (body, after)) :
    body.length + after.length < s.length := by
  unfold group? at h
  split at h
  next rest =>
    have := closeGroup_length h
    simp only [List.length_cons]
    omega
  next => simp at h

theorem group?_eq_none {s : List Char} (h : ∀ rest, s ≠ '(' :: rest) : group? s = none := by
  unfold group?
  split
  next rest => exact absurd rfl (h rest)
  next => rfl

/-- A scan that starts outside of literals comes back to its start behind the text. -/
def Balanced (s : List Char) : Prop :=
  ∀ depth, Cursor.run ⟨depth, .outside⟩ s = some ⟨depth, .outside⟩

/-- What can stand between the quotes of a literal: characters on their own and pairs with a
backslash. -/
inductive LiteralBody : List Char → Prop
  | nil : LiteralBody []
  | char {c : Char} {s : List Char} (hb : c ≠ '\\') (hq : c ≠ '\x27') (hs : LiteralBody s) :
      LiteralBody (c :: s)
  | pair (c : Char) {s : List Char} (hs : LiteralBody s) : LiteralBody ('\\' :: c :: s)

def isPlain (c : Char) : Bool :=
  c != '\x27' && c != '(' && c != ')'

theorem isPlain_iff {c : Char} : isPlain c = true ↔ c ≠ '\x27' ∧ c ≠ '(' ∧ c ≠ ')' := by
  simp [isPlain, and_assoc]

def plain (s : List Char) : Bool :=
  s.all isPlain

namespace Balanced

theorem nil : Balanced [] := fun _ => rfl

theorem append {s t : List Char} (hs : Balanced s) (ht : Balanced t) : Balanced (s ++ t) := by
  intro depth
  rw [Cursor.run_append, hs depth]
  exact ht depth

theorem of_plain {s : List Char} (h : plain s = true) : Balanced s := by
  intro depth
  rw [plain, List.all_eq_true] at h
  induction s with
  | nil => rfl
  | cons c s ih =>
    obtain ⟨hq, ho, hc⟩ := isPlain_iff.mp (h c (List.mem_cons_self ..))
    have hnext : Cursor.next ⟨depth, .outside⟩ c = some ⟨depth, .outside⟩ := by
      simp [Cursor.next, hq, ho, hc]
    rw [Cursor.run_cons, hnext]
    exact ih fun d hd => h d (List.mem_cons_of_mem c hd)

theorem parenthesized {s : List Char} (h : Balanced s) : Balanced ('(' :: (s ++ [')'])) := by
  intro depth
  have hopen : Cursor.next ⟨depth, .outside⟩ '(' = some ⟨depth + 1, .outside⟩ := rfl
  have hclose : Cursor.run ⟨depth + 1, .outside⟩ [')'] = some ⟨depth, .outside⟩ := rfl
  rw [Cursor.run_cons, hopen, Option.bind_some, Cursor.run_append, h (depth + 1)]
  exact hclose

theorem intercalate {separator : List Char} (hs : Balanced separator) {items : List (List Char)}
    (h : ∀ s ∈ items, Balanced s) : Balanced (separator.intercalate items) := by
  match items with
  | [] => exact nil
  | [s] =>
    rw [List.intercalate_singleton]
    exact h s (List.mem_singleton_self s)
  | s :: t :: rest =>
    rw [List.intercalate_cons_cons]
    exact ((h s (List.mem_cons_self ..)).append hs).append
      (intercalate hs fun u hu => h u (List.mem_cons_of_mem s hu))

theorem commaJoin {items : List String} (h : ∀ s ∈ items, Balanced s.toList) :
    Balanced (commaJoin items).toList := by
  rw [Text.commaJoin, String.toList_intercalate]
  refine intercalate (of_plain rfl) fun s hs => ?_
  obtain ⟨item, hitem, rfl⟩ := List.mem_map.mp hs
  exact h item hitem

theorem group?_parenthesized {s : List Char} (h : Balanced s) (rest : List Char) :
    group? ('(' :: (s ++ ')' :: rest)) = some (s, rest) := by
  have hclose : closeGroup ⟨0, .outside⟩ (')' :: rest) = some ([], rest) := rfl
  rw [group?, closeGroup_append (h 0), hclose]
  simp

end Balanced

namespace LiteralBody

theorem append {s t : List Char} (hs : LiteralBody s) (ht : LiteralBody t) :
    LiteralBody (s ++ t) := by
  induction hs with
  | nil => exact ht
  | char hb hq _ ih => exact .char hb hq ih
  | pair c _ ih => exact .pair c ih

theorem flatMap {f : Char → List Char} (h : ∀ c, LiteralBody (f c)) (s : List Char) :
    LiteralBody (s.flatMap f) := by
  induction s with
  | nil => exact .nil
  | cons c s ih =>
    rw [List.flatMap_cons]
    exact (h c).append ih

theorem escapeChar (c : Char) : LiteralBody (escapeChar c) := by
  unfold Text.escapeChar
  split
  next letter _ => exact .pair letter .nil
  next h =>
    obtain ⟨hb, hq⟩ := ne_of_escapeLetter?_eq_none h
    exact .char hb hq .nil

theorem escape (s : String) : LiteralBody (escape s).toList := by
  rw [Text.escape, String.toList_ofList]
  exact flatMap escapeChar s.toList

/-- The escapes of a pattern keep the pairs of its literal together. -/
theorem likeChars {s : List Char} (h : LiteralBody s) : LiteralBody (likeChars s) := by
  induction h with
  | nil => exact .nil
  | @char c s hb hq _ ih =>
    by_cases hpercent : c = '%'
    · subst hpercent
      exact .pair '\\' (.char (by decide) (by decide) ih)
    · by_cases hunderscore : c = '_'
      · subst hunderscore
        exact .pair '\\' (.char (by decide) (by decide) ih)
      · rw [Text.likeChars.eq_7 c s (fun _ h => absurd h hb) (fun _ _ h => absurd h hb)
          (fun h => absurd h hb) hpercent hunderscore]
        exact .char hb hq ih
  | pair c _ ih =>
    by_cases hc : c = '\\'
    · subst hc
      exact .pair '\\' (.pair '\\' ih)
    · rw [Text.likeChars.eq_3 c _ hc]
      exact .pair c ih

/-- A pattern without quotes and backslashes around what stands in a literal. -/
theorem fillChars {value pattern : List Char} (hv : LiteralBody value)
    (hp : ∀ c ∈ pattern, c ≠ '\\' ∧ c ≠ '\x27') : LiteralBody (fillChars value pattern) := by
  fun_induction Text.fillChars value pattern with
  | case1 rest ih =>
    exact hv.append (ih fun c hc => hp c (List.mem_cons_of_mem _ (List.mem_cons_of_mem _ hc)))
  | case2 c rest _ ih =>
    obtain ⟨hb, hq⟩ := hp c (List.mem_cons_self ..)
    exact .char hb hq (ih fun d hd => hp d (List.mem_cons_of_mem c hd))
  | case3 => exact .nil

/-- A scan inside a literal stays in it up to the end of what stands between the quotes. -/
theorem run {s : List Char} (h : LiteralBody s) (depth : Nat) :
    Cursor.run ⟨depth, .inside⟩ s = some ⟨depth, .inside⟩ := by
  induction h with
  | nil => rfl
  | char hb hq _ ih =>
    rw [Cursor.run_cons, Cursor.next, if_neg hb, if_neg hq]
    exact ih
  | pair c _ ih => exact ih

end LiteralBody

theorem Balanced.quoted {s : List Char} (h : LiteralBody s) :
    Balanced ('\x27' :: (s ++ ['\x27'])) := by
  intro depth
  have hopen : Cursor.next ⟨depth, .outside⟩ '\x27' = some ⟨depth, .inside⟩ := rfl
  have hclose : Cursor.run ⟨depth, .inside⟩ ['\x27'] = some ⟨depth, .outside⟩ := rfl
  rw [Cursor.run_cons, hopen, Option.bind_some, Cursor.run_append, h.run depth]
  exact hclose

theorem Balanced.quote (s : String) : Balanced (quote s).toList := by
  rw [toList_quote]
  exact Balanced.quoted (LiteralBody.flatMap LiteralBody.escapeChar s.toList)

end SelectBuilder.Text
