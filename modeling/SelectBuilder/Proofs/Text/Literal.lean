import Mathlib.Data.List.Basic
import SelectBuilder.Text.Fragment
import SelectBuilder.Text.Quoted

/-! Reading quoted literals and lists with commas. A reader takes its part from the front of a text
and returns the rest, so that what it leaves shows where a literal ends. -/
namespace SelectBuilder.Text

theorem isPrefixOf?_append (mark s : List Char) : mark.isPrefixOf? (mark ++ s) = some s := by
  induction mark with
  | nil => rfl
  | cons c mark ih => rw [List.cons_append, List.isPrefixOf?, if_pos (beq_self_eq_true c), ih]

theorem eq_append_of_isPrefixOf? {mark s rest : List Char} (h : mark.isPrefixOf? s = some rest) :
    s = mark ++ rest := by
  induction mark generalizing s with
  | nil => exact Option.some.inj h
  | cons c mark ih =>
    cases s with
    | nil => simp [List.isPrefixOf?] at h
    | cons d s =>
      rw [List.isPrefixOf?] at h
      split_ifs at h with hc
      rw [ih h, eq_of_beq hc, List.cons_append]

/-- A text without control characters, quotes and backslashes has nothing to escape. -/
theorem escape_eq_self {s : String} (h : ∀ c ∈ s.toList, escapeLetter? c = none) :
    escape s = s := by
  have hchar : ∀ c ∈ s.toList, escapeChar c = [c] := fun c hc => by rw [escapeChar, h c hc]
  rw [escape, List.flatMap_congr hchar, List.flatMap_singleton', String.ofList_toList]

def unescapeLetter : Char → Char
  | 'b' => '\x08'
  | 'f' => '\x0c'
  | 'r' => '\r'
  | 'n' => '\n'
  | 't' => '\t'
  | '0' => '\x00'
  | c => c

def readBody : List Char → Option (List Char × List Char)
  | [] => none
  | ['\\'] => none
  | '\\' :: letter :: rest =>
    (readBody rest).map fun (body, after) => (unescapeLetter letter :: body, after)
  | c :: rest =>
    if c = '\x27' then some ([], rest) else (readBody rest).map fun (body, after) =>
      (c :: body, after)

/-- The text that a quoted literal stands for. -/
def readQuoted : List Char → Option (String × List Char)
  | [] => none
  | c :: rest =>
    if c = '\x27' then (readBody rest).map fun (body, after) =>
      (String.ofList body, after) else none

theorem unescapeLetter_of_escapeLetter? {c letter : Char} (h : escapeLetter? c = some letter) :
    unescapeLetter letter = c := by
  unfold escapeLetter? at h
  split at h <;> cases h <;> rfl

theorem readBody_escapeChar (c : Char) (rest : List Char) :
    readBody (escapeChar c ++ rest) = (readBody rest).map fun (body, after) =>
      (c :: body, after) := by
  unfold escapeChar
  split
  next letter h =>
    rw [List.cons_append, List.singleton_append, readBody, unescapeLetter_of_escapeLetter? h]
  next h =>
    obtain ⟨hb, hq⟩ := ne_of_escapeLetter?_eq_none h
    rw [List.singleton_append,
      readBody.eq_4 _ _ (fun h _ => hb h) (fun _ _ h => absurd h hb), if_neg hq]

theorem readBody_escape (s rest : List Char) :
    readBody (s.flatMap escapeChar ++ '\x27' :: rest) = some (s, rest) := by
  induction s with
  | nil => rfl
  | cons c s ih =>
    rw [List.flatMap_cons, List.append_assoc, readBody_escapeChar, ih]
    rfl

def unescapeChars : List Char → List Char
  | '\\' :: letter :: rest => unescapeLetter letter :: unescapeChars rest
  | c :: rest => c :: unescapeChars rest
  | [] => []

def unescape (s : String) : String :=
  String.ofList (unescapeChars s.toList)

theorem unescapeChars_escapeChar (c : Char) (rest : List Char) :
    unescapeChars (escapeChar c ++ rest) = c :: unescapeChars rest := by
  unfold escapeChar
  split
  next letter h =>
    rw [List.cons_append, List.singleton_append, unescapeChars, unescapeLetter_of_escapeLetter? h]
  next h =>
    obtain ⟨hbackslash, -⟩ := ne_of_escapeLetter?_eq_none h
    rw [List.singleton_append, unescapeChars]
    exact fun _ _ heq => absurd heq hbackslash

theorem unescape_escape (s : String) : unescape (escape s) = s := by
  have hchars : ∀ chars : List Char, unescapeChars (chars.flatMap escapeChar) = chars := by
    intro chars
    induction chars with
    | nil => rfl
    | cons c chars ih => rw [List.flatMap_cons, unescapeChars_escapeChar, ih]
  rw [unescape, escape, String.toList_ofList, hchars, String.ofList_toList]

theorem readQuoted_quote (s : String) (rest : List Char) :
    readQuoted ((quote s).toList ++ rest) = some (s, rest) := by
  rw [toList_quote, List.cons_append, List.append_assoc, List.singleton_append, readQuoted,
    if_pos rfl, readBody_escape]
  simp

section Items

variable {α β : Type}

/-- Items with a comma and a blank between them. -/
def readItems (item : List Char → Option (β × List Char)) :
    Nat → List Char → Option (List β × List Char)
  | 0, _ => none
  | fuel + 1, s => do
    let (first, s) ← item s
    match ", ".toList.isPrefixOf? s with
    | none => some ([first], s)
    | some s => do
      let (more, s) ← readItems item fuel s
      some (first :: more, s)

def readList (left right : Char) (item : List Char → Option (β × List Char)) :
    List Char → Option (List β × List Char)
  | [] => none
  | c :: s =>
    if c ≠ left then none
    else if s.head? = some right then some ([], s.tail)
    else do
      let (items, s) ← readItems item s.length s
      if s.head? = some right then some (items, s.tail) else none

variable {item : List Char → Option (β × List Char)} {text : α → String} {value : α → β}
  {Ahead : List Char → Prop} {left right : Char} {xs : List α} {rest : List Char}

theorem toList_commaJoin_cons (a b : String) (more : List String) :
    (commaJoin (a :: b :: more)).toList =
      a.toList ++ (", ".toList ++ (commaJoin (b :: more)).toList) := by
  simp [commaJoin, String.toList_intercalate]

theorem length_le_commaJoin (items : List String) :
    items.length ≤ (commaJoin items).toList.length + 1 := by
  match items with
  | [] => exact Nat.zero_le _
  | [a] => exact Nat.le_add_left ..
  | a :: b :: more =>
    have hmore := length_le_commaJoin (b :: more)
    have hmark : ", ".toList.length = 2 := rfl
    rw [toList_commaJoin_cons, List.length_append, List.length_append, List.length_cons]
    omega

/-- Items whose reader stops in front of a comma and in front of what follows the last of them. -/
theorem readItems_commaJoin {fuel : Nat} (hne : xs ≠ []) (hfuel : xs.length ≤ fuel)
    (hitem : ∀ x ∈ xs, ∀ s, Ahead s → item ((text x).toList ++ s) = some (value x, s))
    (hcomma : ∀ s, Ahead (',' :: s)) (hrest : Ahead rest)
    (hmark : ", ".toList.isPrefixOf? rest = none) :
    readItems item fuel ((commaJoin (xs.map text)).toList ++ rest) = some (xs.map value, rest) := by
  induction xs generalizing fuel with
  | nil => exact absurd rfl hne
  | cons x xs ih =>
    obtain ⟨hx, hxs⟩ := List.forall_mem_cons.mp hitem
    obtain ⟨fuel, rfl⟩ : ∃ k, fuel = k + 1 := Nat.exists_eq_succ_of_ne_zero (by
      rw [List.length_cons] at hfuel
      omega)
    cases xs with
    | nil =>
      have htext : (commaJoin ([x].map text)).toList = (text x).toList := by
        simp [commaJoin]
      rw [htext, readItems, hx rest hrest]
      simp only [Option.bind_eq_bind, Option.bind_some]
      rw [hmark]
      rfl
    | cons y ys =>
      have hnext := hx (", ".toList ++ ((commaJoin ((y :: ys).map text)).toList ++ rest)) (hcomma _)
      have hmore := ih (List.cons_ne_nil y ys) (Nat.le_of_succ_le_succ hfuel) hxs
      rw [List.map_cons, List.map_cons, toList_commaJoin_cons, List.append_assoc, List.append_assoc,
        ← List.map_cons, readItems, hnext]
      simp only [Option.bind_eq_bind, Option.bind_some, isPrefixOf?_append]
      rw [hmore]
      rfl

/-- A list between marks reads back as its items, in their order, if no item starts like the right
mark. -/
theorem readList_commaJoin (hstart : ∀ x ∈ xs, ∃ c t, (text x).toList = c :: t ∧ c ≠ right)
    (hitem : ∀ x ∈ xs, ∀ s, Ahead s → item ((text x).toList ++ s) = some (value x, s))
    (hcomma : ∀ s, Ahead (',' :: s)) (hright : ∀ s, Ahead (right :: s)) (hmark : right ≠ ',') :
    readList left right item (left :: ((commaJoin (xs.map text)).toList ++ right :: rest)) =
      some (xs.map value, rest) := by
  rw [readList, if_neg (not_not.mpr rfl)]
  cases xs with
  | nil => simp [commaJoin]
  | cons x xs =>
    have hhead : ((commaJoin ((x :: xs).map text)).toList ++ right :: rest).head? ≠ some right := by
      obtain ⟨c, t, hc, hne⟩ := hstart x (List.mem_cons_self ..)
      have hfirst : (commaJoin ((x :: xs).map text)).toList.head? = some c := by
        cases xs with
        | nil => simp [commaJoin, hc]
        | cons y ys => simp [toList_commaJoin_cons, hc]
      rw [List.head?_append, hfirst]
      exact fun h => hne (Option.some.inj h)
    have hfuel :
        (x :: xs).length ≤ ((commaJoin ((x :: xs).map text)).toList ++ right :: rest).length := by
      have hlength := length_le_commaJoin ((x :: xs).map text)
      rw [List.length_map] at hlength
      refine Nat.le_trans hlength ?_
      rw [List.length_append]
      exact Nat.add_le_add_left (Nat.le_add_left ..) _
    have hstop : ", ".toList.isPrefixOf? (right :: rest) = none := by
      simp [List.isPrefixOf?, Ne.symm hmark]
    rw [if_neg hhead,
      readItems_commaJoin (List.cons_ne_nil x xs) hfuel hitem hcomma (hright rest) hstop]
    simp

end Items

end SelectBuilder.Text
