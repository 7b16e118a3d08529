import Mathlib.Data.List.TakeDrop
import SelectBuilder.Document.Basic
import SelectBuilder.Proofs.Text.Marks

/-!
The readers of the parts of a document, up to strings and numbers. What a reader leaves is the end
of what it is given, and white space behind the text is left over, whether the reader succeeds or
fails.
-/
namespace SelectBuilder.Document

variable {α β γ : Type} {s w : List Char}

def AllSpace (w : List Char) : Prop :=
  ∀ c ∈ w, isSpace c = true

instance (w : List Char) : Decidable (AllSpace w) :=
  decidable_of_iff (w.all isSpace = true) List.all_eq_true

section Characters

variable {c d : Char}

theorem eq_of_isSpace (h : isSpace c = true) : c = ' ' ∨ c = '\n' ∨ c = '\t' ∨ c = '\r' := by
  simpa [isSpace, or_assoc] using h

theorem ne_of_isSpace_eq_false (hc : isSpace c = true) (hd : isSpace d = false) : c ≠ d := by
  rintro rfl
  rw [hc] at hd
  cases hd

theorem isDigit_of_isSpace (h : isSpace c = true) : c.isDigit = false := by
  rcases eq_of_isSpace h with rfl | rfl | rfl | rfl <;> rfl

theorem hexDigit?_of_isSpace (h : isSpace c = true) : hexDigit? c = none := by
  rcases eq_of_isSpace h with rfl | rfl | rfl | rfl <;> rfl

theorem simpleEscape?_of_isSpace (h : isSpace c = true) : simpleEscape? c = none := by
  rcases eq_of_isSpace h with rfl | rfl | rfl | rfl <;> rfl

theorem unit?_of_isSpace {a b c d : Char} (h : isSpace d = true) : unit? a b c d = none := by
  rw [unit?, hexDigit?_of_isSpace h]
  cases hexDigit? a <;> cases hexDigit? b <;> cases hexDigit? c <;> rfl

end Characters

/-- What a reader gives, with more text behind what it leaves. -/
def leaving (w : List Char) (r : Option (α × List Char)) : Option (α × List Char) :=
  r.map fun (a, rest) => (a, rest ++ w)

@[simp] theorem leaving_some (a : α) (rest : List Char) :
    leaving w (some (a, rest)) = some (a, rest ++ w) := rfl

theorem leaving_map (r : Option (α × List Char)) (f : α → β) :
    leaving w (r.map fun (a, rest) => (f a, rest)) = (leaving w r).map fun (a, rest) =>
      (f a, rest) := by
  cases r <;> rfl

theorem isPrefixOf?_leaving (hw : AllSpace w) {word : List Char}
    (hword : ∀ c ∈ word, isSpace c = false) (s : List Char) :
    word.isPrefixOf? (s ++ w) = (word.isPrefixOf? s).map (· ++ w) := by
  induction w generalizing s with
  | nil => simp
  | cons c w ih =>
    obtain ⟨hc, hrest⟩ := List.forall_mem_cons.mp hw
    have hnot : c ∉ word := fun hmem => ne_of_isSpace_eq_false hc (hword c hmem) rfl
    rw [List.append_cons, ih hrest, Text.isPrefixOf?_concat hnot, Option.map_map]
    simp [Function.comp_def]

theorem word?_append (hw : AllSpace w) {word : String} (hword : word.toList.any isSpace = false)
    (value : Document) (s : List Char) :
    word? word value (s ++ w) = leaving w (word? word value s) := by
  have hchars : ∀ c ∈ word.toList, isSpace c = false := fun c hc => by
    simpa using List.any_eq_false.mp hword c hc
  rw [word?, word?, isPrefixOf?_leaving hw hchars, leaving, Option.map_map, Option.map_map]
  rfl

theorem span_isDigit_append (hw : AllSpace w) (s : List Char) :
    (s ++ w).span Char.isDigit = ((s.span Char.isDigit).1, (s.span Char.isDigit).2 ++ w) := by
  rw [List.span_eq_takeWhile_dropWhile, List.span_eq_takeWhile_dropWhile]
  induction s with
  | nil =>
    cases w with
    | nil => rfl
    | cons c w => simp [isDigit_of_isSpace (hw c (List.mem_cons_self ..))]
  | cons c s ih =>
    obtain ⟨htake, hdrop⟩ := Prod.mk.inj ih
    cases hc : c.isDigit <;> simp [hc, htake, hdrop]

theorem digits?_append (hw : AllSpace w) (s : List Char) :
    digits? (s ++ w) = leaving w (digits? s) := by
  rw [digits?, digits?, span_isDigit_append hw]
  dsimp only
  split <;> rfl

theorem wholeDigits?_append (hw : AllSpace w) (s : List Char) :
    wholeDigits? (s ++ w) = leaving w (wholeDigits? s) := by
  have hother {c : Char} (hc : c ≠ '0') (rest : List Char) :
      wholeDigits? (c :: rest) = digits? (c :: rest) :=
    wholeDigits?.eq_2 _ fun _ h => hc (List.cons.inj h).1
  cases s with
  | nil =>
    cases w with
    | nil => rfl
    | cons c w =>
      have hc :=
        ne_of_isSpace_eq_false (hw c (List.mem_cons_self ..)) (by decide : isSpace '0' = false)
      rw [List.nil_append, hother hc]
      exact digits?_append hw []
  | cons c s =>
    by_cases hc : c = '0'
    · subst hc
      rfl
    · rw [List.cons_append, hother hc, hother hc, ← List.cons_append, digits?_append hw]

theorem fraction?_append (hw : AllSpace w) (s : List Char) :
    fraction? (s ++ w) = leaving w (fraction? s) := by
  have hother {c : Char} (hc : c ≠ '.') (rest : List Char) :
      fraction? (c :: rest) = some (none, c :: rest) :=
    fraction?.eq_2 _ fun _ h => hc (List.cons.inj h).1
  cases s with
  | nil =>
    cases w with
    | nil => rfl
    | cons c w => exact hother (ne_of_isSpace_eq_false (hw c (List.mem_cons_self ..)) (by decide)) w
  | cons c s =>
    by_cases hc : c = '.'
    · subst hc
      rw [List.cons_append, fraction?, fraction?, digits?_append hw, ← leaving_map]
    · rw [List.cons_append, hother hc, hother hc]
      rfl

theorem takeSign_append (hw : AllSpace w) (s : List Char) :
    Decimal.takeSign (s ++ w) = ((Decimal.takeSign s).1, (Decimal.takeSign s).2 ++ w) := by
  have hother {c : Char} (hm : c ≠ '-') (hp : c ≠ '+') (rest : List Char) :
      Decimal.takeSign (c :: rest) = (false, c :: rest) :=
    Decimal.takeSign.eq_3 _ (fun _ h => hm (List.cons.inj h).1) fun _ h => hp (List.cons.inj h).1
  cases s with
  | nil =>
    cases w with
    | nil => rfl
    | cons c w =>
      have hc := hw c (List.mem_cons_self ..)
      exact hother (ne_of_isSpace_eq_false hc (by decide)) (ne_of_isSpace_eq_false hc (by decide)) w
  | cons c s =>
    by_cases hm : c = '-'
    · subst hm
      rfl
    by_cases hp : c = '+'
    · subst hp
      rfl
    rw [List.cons_append, hother hm hp, hother hm hp]
    rfl

theorem power?_append (hw : AllSpace w) (s : List Char) :
    power? (s ++ w) = leaving w (power? s) := by
  cases s with
  | nil =>
    cases w with
    | nil => rfl
    | cons c w =>
      have hc := hw c (List.mem_cons_self ..)
      have he : c ≠ 'e' := ne_of_isSpace_eq_false hc (by decide)
      have hE : c ≠ 'E' := ne_of_isSpace_eq_false hc (by decide)
      simp [power?, he, hE]
  | cons c s =>
    rw [List.cons_append, power?, power?]
    split
    next =>
      rw [takeSign_append hw]
      dsimp only
      rw [digits?_append hw]
      cases digits? (Decimal.takeSign s).2 <;> rfl
    next => rfl

theorem number?_append (hw : AllSpace w) (negative : Bool) (s : List Char) :
    number? negative (s ++ w) = leaving w (number? negative s) := by
  rw [number?, number?, wholeDigits?_append hw]
  cases wholeDigits? s with
  | none => rfl
  | some r =>
    obtain ⟨units, s⟩ := r
    simp only [leaving_some, Option.bind_eq_bind, Option.bind_some, fraction?_append hw]
    cases fraction? s with
    | none => rfl
    | some r =>
      obtain ⟨places, s⟩ := r
      simp only [leaving_some, Option.bind_some, power?_append hw]
      cases power? s with
      | none => rfl
      | some r =>
        obtain ⟨power, s⟩ := r
        simp only [leaving_some, Option.bind_some]
        split <;> rfl

theorem stringItems?_cons {c : Char} (hquote : c ≠ '"') (hescape : c ≠ '\\') (rest : List Char) :
    stringItems? (c :: rest) =
      if c < ' ' then none else (stringItems? rest).map fun (items, rest) =>
        (.char c :: items, rest) := by
  rw [stringItems?.eq_4 c rest hquote (fun _ _ _ _ _ h => absurd h hescape) fun _ _ h =>
    absurd h hescape]
  cases stringItems? rest <;> rfl

theorem stringItems?_of_allSpace (hw : AllSpace w) : stringItems? w = none := by
  induction w with
  | nil => rfl
  | cons c w ih =>
    obtain ⟨hc, hrest⟩ := List.forall_mem_cons.mp hw
    rw [stringItems?_cons (ne_of_isSpace_eq_false hc (by decide))
      (ne_of_isSpace_eq_false hc (by decide)), ih hrest,
      Option.map_none, ite_self]

theorem stringItems?_append (hw : AllSpace w) (s : List Char) :
    stringItems? (s ++ w) = leaving w (stringItems? s) := by
  fun_induction stringItems? s with
  | case1 rest => rfl
  | case2 a b c d rest ih =>
    simp only [List.cons_append]
    rw [stringItems?.eq_2, ih]
    cases unit? a b c d with
    | none => rfl
    | some n => cases stringItems? rest <;> rfl
  | case3 e rest hunit ih => 
    simp only [List.cons_append]
    by_cases hplain : ∀ a b c d more, e = 'u' → rest ++ w = a :: b :: c :: d :: more → False
    · rw [stringItems?.eq_3 _ _ hplain, ih]
      cases simpleEscape? e with
      | none => rfl
      | some c => cases stringItems? rest <;> rfl
    · simp only [not_forall] at hplain
      obtain ⟨a, b, c, d, more, rfl, hmore, -⟩ := hplain
      have hshort : rest.length < 4 := by
        match rest with
        | [] | [_] | [_, _] | [_, _, _] => simp
        | _ :: _ :: _ :: _ :: _ => exact (hunit _ _ _ _ _ rfl rfl).elim
      -- the fourth character behind the letter is white space, and no digit
      have hd : (rest ++ w)[3]? = some d := by rw [hmore]; rfl
      rw [List.getElem?_append_right (by omega)] at hd
      rw [hmore, stringItems?.eq_2, unit?_of_isSpace (hw d (List.mem_of_getElem? hd))]
      rfl
  | case4 c rest hquote _ hescape hcontrol =>
    have hc : c ≠ '\\' := by
      rintro rfl
      exact absurd hcontrol (by decide)
    rw [List.cons_append, stringItems?_cons hquote hc, if_pos hcontrol]
    rfl
  | case5 c rest hquote _ hescape hcontrol ih =>
    by_cases hc : c = '\\'
    · subst hc
      cases rest with
      | cons e rest => exact (hescape e rest rfl rfl).elim
      | nil =>
        cases w with
        | nil => rfl
        | cons e w =>
          have he := hw e (List.mem_cons_self ..)
          have hplain : e ≠ 'u' := ne_of_isSpace_eq_false he (by decide)
          rw [List.singleton_append, stringItems?.eq_3 _ _ fun _ _ _ _ _ h => absurd h hplain,
            simpleEscape?_of_isSpace he]
          rfl
    · rw [List.cons_append, stringItems?_cons hquote hc, if_neg hcontrol, ih]
      cases stringItems? rest <;> rfl
  | case6 => exact stringItems?_of_allSpace hw

theorem string?_append (hw : AllSpace w) (s : List Char) :
    string? (s ++ w) = leaving w (string? s) := by
  rw [string?, string?, stringItems?_append hw]
  cases stringItems? s <;> rfl

section Ends

variable {r : Option (α × List Char)} {t : List Char}

/-- What a reader leaves is the end of the text. -/
def Ends (s : List Char) (r : Option (α × List Char)) : Prop :=
  ∀ a rest, r = some (a, rest) → rest <:+ s

theorem ends_none : Ends s (none : Option (α × List Char)) := nofun

theorem ends_some (a : α) (h : t <:+ s) : Ends s (some (a, t)) := by
  rintro b rest hr
  obtain ⟨-, rfl⟩ := Prod.mk.inj (Option.some.inj hr)
  exact h

theorem Ends.of_suffix (hr : Ends t r) (h : t <:+ s) : Ends s r :=
  fun a rest ha => (hr a rest ha).trans h

theorem Ends.map (hr : Ends s r) (f : α → β) : Ends s (r.map fun (a, rest) => (f a, rest)) := by
  cases r with
  | none => exact ends_none
  | some p => exact ends_some (f p.1) (hr p.1 p.2 rfl)

theorem Ends.bind (hr : Ends s r) {f : α × List Char → Option (β × List Char)}
    (hf : ∀ a rest, Ends rest (f (a, rest))) :
    Ends s (r.bind f) := by
  cases r with
  | none => exact ends_none
  | some p => exact (hf p.1 p.2).of_suffix (hr p.1 p.2 rfl)

theorem ends_bind {x : Option γ} {f : γ → Option (β × List Char)} (hf : ∀ c, Ends s (f c)) :
    Ends s (x.bind f) := by
  cases x with
  | none => exact ends_none
  | some c => exact hf c

theorem skipSpace_suffix (s : List Char) : skipSpace s <:+ s :=
  List.dropWhile_suffix isSpace

theorem ends_word? (word : String) (value : Document) (s : List Char) :
    Ends s (word? word value s) := by
  rw [word?]
  cases h : word.toList.isPrefixOf? s with
  | none => exact ends_none
  | some rest => exact ends_some value ⟨word.toList, (Text.eq_append_of_isPrefixOf? h).symm⟩

theorem ends_stringItems? (s : List Char) : Ends s (stringItems? s) := by
  fun_induction stringItems? s with
  | case1 t => exact ends_some _ (List.suffix_cons _ t)
  | case2 a b c d t ih =>
    exact ends_bind fun n => (ih.of_suffix ⟨['\\', 'u', a, b, c, d], rfl⟩).bind fun _ rest =>
      ends_some _ (List.suffix_refl rest)
  | case3 e t _ ih =>
    exact ends_bind fun c => (ih.of_suffix ⟨['\\', e], rfl⟩).bind fun _ rest =>
      ends_some _ (List.suffix_refl rest)
  | case4 => exact ends_none
  | case5 c t _ _ _ _ ih =>
    exact (ih.of_suffix (List.suffix_cons c t)).bind fun _ rest =>
      ends_some _ (List.suffix_refl rest)
  | case6 => exact ends_none

theorem ends_string? (s : List Char) : Ends s (string? s) :=
  (ends_stringItems? s).bind fun _ rest => ends_some _ (List.suffix_refl rest)

theorem ends_digits? (s : List Char) : Ends s (digits? s) := by
  rw [digits?, List.span_eq_takeWhile_dropWhile]
  dsimp only
  split
  next => exact ends_none
  next => exact ends_some _ (List.dropWhile_suffix Char.isDigit)

theorem ends_wholeDigits? (s : List Char) : Ends s (wholeDigits? s) := by
  unfold wholeDigits?
  split
  next t => exact ends_some _ (List.suffix_cons _ t)
  next => exact ends_digits? s

theorem ends_fraction? (s : List Char) : Ends s (fraction? s) := by
  unfold fraction?
  split
  next t => exact ((ends_digits? t).map some).of_suffix (List.suffix_cons _ t)
  next => exact ends_some _ (List.suffix_refl s)

theorem takeSign_suffix (s : List Char) : (Decimal.takeSign s).2 <:+ s := by
  unfold Decimal.takeSign
  split
  next t => exact List.suffix_cons _ t
  next t => exact List.suffix_cons _ t
  next => exact List.suffix_refl s

theorem ends_power? (s : List Char) : Ends s (power? s) := by
  unfold power?
  split
  next c t =>
    split
    next =>
      exact ((ends_digits? _).of_suffix ((takeSign_suffix t).trans (List.suffix_cons c t))).bind
        fun _ rest => ends_some _ (List.suffix_refl rest)
    next => exact ends_some _ (List.suffix_refl (c :: t))
  next => exact ends_some _ (List.suffix_refl [])

theorem ends_number? (negative : Bool) (s : List Char) : Ends s (number? negative s) := by
  refine (ends_wholeDigits? s).bind fun units s₁ => (ends_fraction? s₁).bind fun places s₂ =>
    (ends_power? s₂).bind fun power s₃ => ?_
  dsimp only
  split <;> exact ends_some _ (List.suffix_refl s₃)

end Ends

end SelectBuilder.Document
