import Mathlib.Data.List.Infix
import SelectBuilder.Text.Quoted

/-! LIKE patterns, and the texts that fit them. What is escaped for use in a pattern is the body of
a literal whose text, as a pattern, fits one text only; between runs of any characters it finds the
texts that hold it. -/
namespace SelectBuilder.Text

inductive PatternPart where
  /-- Any run of characters, also none. -/
  | anyRun
  | anyChar
  | exactly (c : Char)
  deriving DecidableEq, Repr

def PatternPart.ofChar : Char → PatternPart
  | '%' => .anyRun
  | '_' => .anyChar
  | c => .exactly c

/-- The parts of a pattern. A backslash makes the character behind it stand for itself. -/
def patternParts : List Char → List PatternPart
  | [] => []
  | '\\' :: c :: rest => .exactly c :: patternParts rest
  | c :: rest => .ofChar c :: patternParts rest

/-- Whether a text, from its first character to its last, is made of the parts of a pattern. -/
def fits : List PatternPart → List Char → Bool
  | [], s => s.isEmpty
  | .anyRun :: parts, s => s.tails.any (fits parts)
  | .anyChar :: parts, _ :: s => fits parts s
  | .exactly c :: parts, d :: s => c == d && fits parts s
  | _ :: _, [] => false

def isLike (pattern s : String) : Bool :=
  fits (patternParts pattern.toList) s.toList

def verbatimChar (c : Char) : List Char :=
  if c = '\\' ∨ c = '%' ∨ c = '_' then ['\\', c] else [c]

theorem patternParts_verbatimChar (c : Char) (rest : List Char) :
    patternParts (verbatimChar c ++ rest) = .exactly c :: patternParts rest := by
  unfold verbatimChar
  split_ifs with h
  · rfl
  · obtain ⟨hb, hp, hu⟩ : c ≠ '\\' ∧ c ≠ '%' ∧ c ≠ '_' := by simpa only [not_or] using h
    rw [List.singleton_append, patternParts.eq_3 _ _ (fun _ _ h => absurd h hb),
      PatternPart.ofChar.eq_3 c hp hu]

theorem patternParts_verbatim (s rest : List Char) :
    patternParts (s.flatMap verbatimChar ++ rest) = s.map .exactly ++ patternParts rest := by
  induction s with
  | nil => rfl
  | cons c s ih =>
    rw [List.flatMap_cons, List.append_assoc, patternParts_verbatimChar, ih, List.map_cons,
      List.cons_append]

theorem fits_nil_iff {s : List Char} : fits [] s = true ↔ s = [] := by
  rw [fits, List.isEmpty_iff]

theorem fits_anyRun_iff {parts : List PatternPart} {s : List Char} :
    fits (.anyRun :: parts) s = true ↔ ∃ rest, rest <:+ s ∧ fits parts rest = true := by
  simp only [fits, List.any_eq_true, List.mem_tails]

theorem fits_exactly_iff {text s : List Char} {parts : List PatternPart} :
    fits (text.map .exactly ++ parts) s = true ↔
      ∃ rest, s = text ++ rest ∧ fits parts rest = true := by
  induction text generalizing s with
  | nil => simp
  | cons c text ih =>
    cases s with
    | nil => simp [fits]
    | cons d s =>
      rw [List.map_cons, List.cons_append, fits, Bool.and_eq_true, beq_iff_eq, ih]
      constructor
      · rintro ⟨rfl, rest, rfl, h⟩
        exact ⟨rest, rfl, h⟩
      · rintro ⟨rest, hs, h⟩
        obtain ⟨rfl, rfl⟩ := List.cons.inj hs
        exact ⟨rfl, rest, rfl, h⟩

theorem fits_run (s : List Char) : fits [.anyRun] s = true :=
  fits_anyRun_iff.mpr ⟨[], List.nil_suffix, rfl⟩

inductive Placement where
  | anywhere | atStart | atEnd
  deriving DecidableEq, Repr

namespace Placement

def Holds : Placement → List Char → List Char → Prop
  | .anywhere, part, s => part <:+: s
  | .atStart, part, s => part <+: s
  | .atEnd, part, s => part <:+ s

def before : Placement → List Char
  | .anywhere | .atEnd => ['%']
  | .atStart => []

def after : Placement → List Char
  | .anywhere | .atStart => ['%']
  | .atEnd => []

def around (place : Placement) (body : List Char) : List Char :=
  place.before ++ (body ++ place.after)

def template (place : Placement) : String :=
  String.ofList (place.around ['\x7b', '\x7d'])

theorem fill_template (place : Placement) (value : String) :
    (fill place.template value).toList = place.around value.toList := by
  rw [fill, String.toList_ofList, template, String.toList_ofList]
  cases place <;> rfl

/-- A text fits the pattern around a verbatim text exactly if it holds that text at the place. -/
theorem fits_around_iff (place : Placement) {part s : List Char} :
    fits (patternParts (place.around (part.flatMap verbatimChar))) s = true ↔
      place.Holds part s := by
  have hrun : ∀ t, fits (part.map .exactly ++ [.anyRun]) t = true ↔ part <+: t := by
    intro t
    rw [fits_exactly_iff]
    exact ⟨fun ⟨rest, ht, _⟩ => ⟨rest, ht.symm⟩, fun ⟨rest, ht⟩ => ⟨rest, ht.symm, fits_run rest⟩⟩
  have hstop : ∀ t, fits (part.map .exactly ++ []) t = true ↔ t = part := by
    intro t
    rw [fits_exactly_iff]
    simp [fits_nil_iff]
  cases place with
  | anywhere =>
    have hparts : patternParts (anywhere.around (part.flatMap verbatimChar)) =
        .anyRun :: (part.map .exactly ++ [.anyRun]) :=
      congrArg _ (patternParts_verbatim part ['%'])
    rw [hparts, fits_anyRun_iff]
    simp only [hrun, Holds, List.infix_iff_prefix_suffix]
    exact exists_congr fun t => and_comm
  | atStart =>
    have hparts : patternParts (atStart.around (part.flatMap verbatimChar)) =
        part.map .exactly ++ [.anyRun] := patternParts_verbatim part ['%']
    rw [hparts, hrun, Holds]
  | atEnd =>
    have hparts : patternParts (atEnd.around (part.flatMap verbatimChar)) =
        .anyRun :: (part.map .exactly ++ []) := congrArg _ (patternParts_verbatim part [])
    rw [hparts, fits_anyRun_iff]
    simp only [hstop, Holds, exists_eq_right]

/-- The pattern that finds a text at the place. -/
def pattern (place : Placement) (s : String) : String :=
  String.ofList (place.around (s.toList.flatMap verbatimChar))

theorem isLike_pattern_iff (place : Placement) {s t : String} :
    isLike (place.pattern s) t = true ↔ place.Holds s.toList t.toList := by
  rw [isLike, pattern, String.toList_ofList, fits_around_iff]

example : isLike (atStart.pattern "5%\\") "5%\\n" = true := by decide

end Placement

theorem likeChars_escapeChar (c : Char) (rest : List Char) :
    likeChars (escapeChar c ++ rest) = (verbatimChar c).flatMap escapeChar ++ likeChars rest := by
  by_cases hb : c = '\\'
  · subst hb
    rfl
  by_cases hp : c = '%'
  · subst hp
    rfl
  by_cases hu : c = '_'
  · subst hu
    rfl
  have hverbatim : verbatimChar c = [c] := by simp [verbatimChar, hb, hp, hu]
  rw [hverbatim, List.flatMap_singleton]
  unfold escapeChar
  split
  next letter h =>
    have hletter : letter ≠ '\\' := by
      rintro rfl
      unfold escapeLetter? at h
      split at h <;> simp_all
    exact likeChars.eq_3 letter rest hletter
  next =>
    exact likeChars.eq_7 c rest (fun _ h => absurd h hb) (fun _ _ h => absurd h hb)
      (fun h => absurd h hb) hp hu

/-- Escaping the body of a literal for a pattern gives the body of another literal: of the pattern
that stands for the text alone. -/
theorem likeChars_escape (s : List Char) :
    likeChars (s.flatMap escapeChar) = (s.flatMap verbatimChar).flatMap escapeChar := by
  induction s with
  | nil => rfl
  | cons c s ih =>
    rw [List.flatMap_cons, likeChars_escapeChar, ih, List.flatMap_cons, List.flatMap_append]

end SelectBuilder.Text
