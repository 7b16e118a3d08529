import SelectBuilder.Proofs.Number.Characters
import SelectBuilder.Proofs.Text.Balance
import SelectBuilder.Proofs.Text.Literal

/-! Where a literal ends. What can stand between its quotes keeps it open up to its last quote; a
text with a quote of its own ends it before that. -/
namespace SelectBuilder.Text

/-- A text is one literal: the first quote without a backslash behind the opening one is its last
character. -/
def isLiteral (s : String) : Bool :=
  (readQuoted s.toList).any fun (_, rest) => rest.isEmpty

/-- A quote in a text that ends a literal around it. -/
def ExposesQuote (s : List Char) : Prop :=
  ∃ body rest, LiteralBody body ∧ s = body ++ '\x27' :: rest

namespace LiteralBody

variable {s : List Char}

theorem of_notMem (hb : '\\' ∉ s) (hq : '\x27' ∉ s) : LiteralBody s := by
  induction s with
  | nil => exact .nil
  | cons c s ih =>
    have hrest := ih (List.not_mem_of_not_mem_cons hb) (List.not_mem_of_not_mem_cons hq)
    exact .char (List.ne_of_not_mem_cons hb).symm (List.ne_of_not_mem_cons hq).symm hrest

theorem of_bare (h : bare s = true) : LiteralBody s := by
  have hbare : ∀ c ∈ s, isBare c = true := List.all_eq_true.mp h
  exact of_notMem (fun hc => absurd (hbare _ hc) (by decide))
    (fun hc => absurd (hbare _ hc) (by decide))

theorem readBody (h : LiteralBody s) (rest : List Char) :
    ∃ text, readBody (s ++ '\x27' :: rest) = some (text, rest) := by
  induction h with
  | nil => exact ⟨[], rfl⟩
  | @char c s hb hq _ ih =>
    obtain ⟨text, ih⟩ := ih
    refine ⟨c :: text, ?_⟩
    rw [List.cons_append, readBody.eq_4 _ _ (fun h _ => hb h) (fun _ _ h => absurd h hb),
      if_neg hq, ih]
    rfl
  | pair c _ ih =>
    obtain ⟨text, ih⟩ := ih
    refine ⟨unescapeLetter c :: text, ?_⟩
    rw [List.cons_append, List.cons_append, Text.readBody, ih]
    rfl

/-- A pattern is escaped pair by pair, so that what follows whole pairs is escaped on its own. -/
theorem likeChars_append (h : LiteralBody s) (t : List Char) :
    Text.likeChars (s ++ t) = Text.likeChars s ++ Text.likeChars t := by
  induction h with
  | nil => rfl
  | @char c s hb _ _ ih =>
    by_cases hp : c = '%'
    · subst hp
      simpa [Text.likeChars] using ih
    by_cases hu : c = '_'
    · subst hu
      simpa [Text.likeChars] using ih
    have hchar : ∀ u, Text.likeChars (c :: u) = c :: Text.likeChars u := fun u =>
      likeChars.eq_7 c u (fun _ h => absurd h hb) (fun _ _ h => absurd h hb)
        (fun h => absurd h hb) hp hu
    rw [List.cons_append, hchar, hchar, ih, List.cons_append]
  | pair c _ ih =>
    by_cases hc : c = '\\'
    · subst hc
      simpa [Text.likeChars] using ih
    · rw [List.cons_append, List.cons_append, likeChars.eq_3 c _ hc, likeChars.eq_3 c _ hc, ih,
        List.cons_append, List.cons_append]

theorem intercalate {separator : List Char} (hs : LiteralBody separator) {items : List (List Char)}
    (h : ∀ s ∈ items, LiteralBody s) : LiteralBody (separator.intercalate items) := by
  match items with
  | [] => exact .nil
  | [s] =>
    rw [List.intercalate_singleton]
    exact h s (List.mem_singleton_self s)
  | s :: t :: rest =>
    rw [List.intercalate_cons_cons]
    exact ((h s (List.mem_cons_self ..)).append hs).append
      (intercalate hs fun u hu => h u (List.mem_cons_of_mem s hu))

theorem isLiteral (h : LiteralBody s) : isLiteral ("'" ++ String.ofList s ++ "'") = true := by
  obtain ⟨text, htext⟩ := h.readBody []
  have hchars : ("'" ++ String.ofList s ++ "'").toList = '\x27' :: (s ++ ['\x27']) := by
    simp
  rw [Text.isLiteral, hchars, readQuoted, if_pos rfl, htext]
  rfl

end LiteralBody

namespace ExposesQuote

variable {s : List Char}

theorem quote (s : String) : ExposesQuote (quote s).toList :=
  ⟨[], _, .nil, toList_quote s⟩

theorem append (h : ExposesQuote s) (t : List Char) : ExposesQuote (s ++ t) := by
  obtain ⟨body, rest, hbody, rfl⟩ := h
  exact ⟨body, rest ++ t, hbody, by rw [List.append_assoc, List.cons_append]⟩

theorem behind {t : List Char} (ht : LiteralBody t) (h : ExposesQuote s) :
    ExposesQuote (t ++ s) := by
  obtain ⟨body, rest, hbody, rfl⟩ := h
  exact ⟨t ++ body, rest, ht.append hbody, (List.append_assoc ..).symm⟩

theorem likeChars (h : ExposesQuote s) : ExposesQuote (likeChars s) := by
  obtain ⟨body, rest, hbody, rfl⟩ := h
  exact ⟨Text.likeChars body, Text.likeChars rest, hbody.likeChars, hbody.likeChars_append _⟩

/-- The first item of a list that exposes a quote exposes it in the list. -/
theorem intercalate {separator : List Char} (hs : LiteralBody separator) {items : List (List Char)}
    (hitems : ∀ s ∈ items, LiteralBody s ∨ ExposesQuote s) (h : ∃ s ∈ items, ExposesQuote s) :
    ExposesQuote (separator.intercalate items) := by
  match items with
  | [] => simp at h
  | [s] =>
    rw [List.intercalate_singleton]
    simpa using h
  | s :: t :: rest =>
    obtain ⟨hfirst, hmore⟩ := List.forall_mem_cons.mp hitems
    rw [List.intercalate_cons_cons]
    rcases hfirst with hfirst | hfirst
    · obtain ⟨u, hu, hexposed⟩ := h
      rcases List.mem_cons.mp hu with rfl | hu
      · exact (hexposed.append _).append _
      · exact .behind (hfirst.append hs) (intercalate hs hmore ⟨u, hu, hexposed⟩)
    · exact (hfirst.append _).append _

theorem isLiteral (h : ExposesQuote s) : isLiteral ("'" ++ String.ofList s ++ "'") = false := by
  obtain ⟨body, rest, hbody, rfl⟩ := h
  obtain ⟨text, htext⟩ := hbody.readBody (rest ++ ['\x27'])
  have hchars : ("'" ++ String.ofList (body ++ '\x27' :: rest) ++ "'").toList =
      '\x27' :: (body ++ '\x27' :: (rest ++ ['\x27'])) := by
    simp
  rw [Text.isLiteral, hchars, readQuoted, if_pos rfl, htext]
  simp

end ExposesQuote

end SelectBuilder.Text
