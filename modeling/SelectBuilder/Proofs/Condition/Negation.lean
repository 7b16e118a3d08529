import Mathlib.Logic.Function.Iterate
import SelectBuilder.Condition.Basic
import SelectBuilder.Proofs.Condition.Parts

/-! Negations of trees as texts. A negation puts the text of a tree into parentheses behind `NOT`,
whether it sets a flag or goes into a new tree. One negation is not written, that of an empty tree
that is negated already: there it is an empty child of the new tree, and such children are left
out. -/
namespace SelectBuilder.Tree

variable {α ε : Type}

theorem negated_not (t : Tree α) : t.not.negated = true := by
  unfold Tree.not
  split <;> rfl

theorem render_of_isEmpty {t : Tree α} (h : t.isEmpty = true) (leafText : α → Except ε String) :
    t.render leafText = .ok (negateText t.negated "1") := by
  cases t with
  | node mode negated leaves children =>
    obtain ⟨rfl, rfl⟩ := isEmpty_iff.mp h
    rfl

/-- A negation is written unless it is that of an empty tree under another one. -/
theorem render_not (leafText : α → Except ε String) (t : Tree α) :
    t.not.render leafText =
      if t.isEmpty && t.negated then t.render leafText else
        (t.render leafText).map (negateText true) := by
  cases hn : t.negated with
  | false =>
    have hparts : t.not.parts = t.parts := by simp [Tree.not, hn, parts, Tree.leaves, Tree.children]
    have hmode : t.not.mode = t.mode := by simp [Tree.not, hn, Tree.mode]
    rw [Bool.and_false, if_neg Bool.false_ne_true, render_eq_parts, render_eq_parts leafText t,
      hparts, hmode, negated_not, hn]
    cases t.parts.mapM (render leafText) <;> rfl
  | true =>
    have hnot : t.not = node .and true [] [t] := if_pos hn
    cases he : t.isEmpty with
    | true =>
      have hwritten : written [t] = [] := List.filter_cons_of_neg (by simp [he])
      rw [hnot, render_of_isEmpty he, render, renderChildren_eq_mapM, hwritten, hn]
      rfl
    | false =>
      have hwritten : written [t] = [t] := List.filter_cons_of_pos (by simp [he])
      rw [hnot, render, renderChildren_eq_mapM, hwritten, List.mapM_cons]
      cases t.render leafText <;> rfl

section Repeated

/-- Among repeated negations an empty tree with its flag set comes up at most once. The next
negation gives it a new tree, which is not empty. -/
theorem isEmpty_and_negated_iterate_not (t : Tree α) (n : Nat) :
    ((Tree.not^[n] t).isEmpty && (Tree.not^[n] t).negated) = true ↔
      t.isEmpty = true ∧ n + t.negated.toNat = 1 := by
  match n with
  | 0 => cases ht : t.negated <;> simp [ht]
  | 1 => cases ht : t.negated <;> simp [isEmpty_not, negated_not, ht]
  | n + 2 =>
    -- the second negation has put the tree into a new one
    have hn : n + 2 + t.negated.toNat ≠ 1 := by omega
    simp [Function.iterate_succ_apply', isEmpty_not, negated_not, hn]

/-- How many of `n` negations of a tree are not written. -/
def unwritten (t : Tree α) (n : Nat) : Nat :=
  if t.isEmpty && 2 ≤ n + t.negated.toNat then 1 else 0

theorem unwritten_of_isEmpty_eq_false {t : Tree α} (h : t.isEmpty = false) (n : Nat) :
    t.unwritten n = 0 := by
  simp [unwritten, h]

theorem unwritten_of_le {t : Tree α} {n : Nat} (h : n + t.negated.toNat ≤ 1) :
    t.unwritten n = 0 := by
  have hn : ¬ 2 ≤ n + t.negated.toNat := by omega
  simp [unwritten, hn]

theorem unwritten_of_lt {t : Tree α} {n : Nat} (he : t.isEmpty = true)
    (h : 1 < n + t.negated.toNat) :
    t.unwritten n = 1 := by
  have hn : 2 ≤ n + t.negated.toNat := h
  simp [unwritten, he, hn]

/-- One more negation is one more that is written, unless it is that of an empty tree with its flag
set. -/
theorem unwritten_succ {t : Tree α} {n : Nat} (h : ¬ (t.isEmpty = true ∧ n + t.negated.toNat = 1)) :
    n - t.unwritten n + 1 = n + 1 - t.unwritten (n + 1) := by
  have hnegated : t.negated.toNat ≤ 1 := t.negated.toNat_le
  cases he : t.isEmpty with
  | false =>
    rw [unwritten_of_isEmpty_eq_false he, unwritten_of_isEmpty_eq_false he, Nat.sub_zero,
      Nat.sub_zero]
  | true =>
    have hone : n + t.negated.toNat ≠ 1 := fun hone => h ⟨he, hone⟩
    by_cases hmany : 1 < n + t.negated.toNat
    · rw [unwritten_of_lt he hmany, unwritten_of_lt he (by omega)]
      omega
    · rw [unwritten_of_le (by omega), unwritten_of_le (by omega), Nat.sub_zero, Nat.sub_zero]

theorem render_iterate_not (leafText : α → Except ε String) (t : Tree α) (n : Nat) :
    (Tree.not^[n] t).render leafText =
      (t.render leafText).map (negateText true)^[n - t.unwritten n] := by
  induction n with
  | zero =>
    change t.render leafText = (t.render leafText).map (negateText true)^[0 - t.unwritten 0]
    rw [Nat.zero_sub]
    cases t.render leafText <;> rfl
  | succ n ih =>
    have hmap : ∀ k, ((t.render leafText).map (negateText true)^[k]).map (negateText true) =
        (t.render leafText).map (negateText true)^[k + 1] := by
      intro k
      rw [Function.iterate_succ']
      cases t.render leafText <;> rfl
    rw [Function.iterate_succ_apply', render_not, ih]
    split
    next h =>
      obtain ⟨he, hn⟩ := (isEmpty_and_negated_iterate_not t n).mp h
      rw [unwritten_of_le (by omega), unwritten_of_lt he (by omega), Nat.sub_zero,
        Nat.add_sub_cancel]
    next h => rw [hmap, unwritten_succ (mt (isEmpty_and_negated_iterate_not t n).mpr h)]

theorem length_iterate_negateText (n : Nat) (text : String) :
    ((negateText true)^[n] text).length = 6 * n + text.length := by
  induction n with
  | zero => simp
  | succ n ih =>
    have hwrap : ∀ inner, (negateText true inner).length = 6 + inner.length := by
      intro inner
      have hopen : "NOT (".length = 5 := rfl
      have hclose : ")".length = 1 := rfl
      rw [negateText, if_pos rfl, String.length_append, String.length_append, hopen, hclose]
      omega
    rw [Function.iterate_succ_apply', hwrap, ih]
    omega

/-- All `n` negations are written unless one of them is that of a negated empty tree. -/
theorem render_iterate_not_iff (leafText : α → Except ε String) (t : Tree α) (n : Nat) :
    (Tree.not^[n] t).render leafText = (t.render leafText).map (negateText true)^[n] ↔
      (t.isEmpty = true → n + t.negated.toNat ≤ 1) := by
  rw [render_iterate_not]
  cases he : t.isEmpty with
  | false => simp [unwritten_of_isEmpty_eq_false he]
  | true =>
    have hnegated : t.negated.toNat ≤ 1 := t.negated.toNat_le
    rw [render_of_isEmpty he]
    constructor
    · -- with one negation fewer the text is shorter
      intro h _
      have hlength := congrArg String.length (Except.ok.inj h)
      rw [length_iterate_negateText, length_iterate_negateText] at hlength
      by_contra hn
      have hone : t.unwritten n = 1 := unwritten_of_lt he (by omega)
      omega
    · intro h
      rw [unwritten_of_le (h rfl), Nat.sub_zero]

end Repeated

/-- Negated twice, a tree means what it meant if it is not empty, and the opposite if it is. -/
theorem holds_not_not_iff (t : Tree α) (v : α → Bool) :
    t.not.not.holds v = t.holds v ↔ t.isEmpty = false := by
  rw [holds_not, holds_not, isEmpty_not]
  cases he : t.isEmpty with
  | false => simp
  | true =>
    rw [holds_of_isEmpty he]
    cases t.negated <;> simp

/-- Negating a tree keeps whether it renders. Its text is wrapped once for every negation, and a
double negation means what the tree does, with the following exceptions and no other: of the
negations of an empty tree one is not written if there are two or more, the flag of the tree counted
in, and a double negation of an empty tree means the opposite. -/
theorem negation_wraps_iff (leafText : α → Except ε String) (q : Tree α) :
    (q.not.render leafText).isOk = (q.render leafText).isOk ∧
      (q.not.render leafText = (q.render leafText).map (fun text => "NOT (" ++ text ++ ")") ↔
        ¬ (q.isEmpty = true ∧ q.negated = true)) ∧
      (∀ n, (Tree.not^[n] q).render leafText = (q.render leafText).map (negateText true)^[n] ↔
        (q.isEmpty = true → n + q.negated.toNat ≤ 1)) ∧
      ∀ v, q.not.not.clause.holds v = q.clause.holds v ↔ q.isEmpty = false := by
  refine ⟨?_, ?_, render_iterate_not_iff leafText q, fun v => ?_⟩
  · rw [render_not]
    split
    · rfl
    · cases q.render leafText <;> rfl
  · refine (render_iterate_not_iff leafText q 1).trans ?_
    cases q.negated <;> simp
  · rw [holds_clause, holds_clause]
    exact holds_not_not_iff q v

/-- The empty tree negated twice has the text and the meaning of the empty tree negated once. -/
theorem double_negation_of_empty_unwritten :
    let leafText := Condition.render Model.person.fields
    let v := fun _ : Condition => true
    (empty : Tree Condition).render leafText = .ok "1" ∧
      (empty : Tree Condition).not.render leafText = .ok "NOT (1)" ∧
      (empty : Tree Condition).not.not.render leafText = .ok "NOT (1)" ∧
      (empty : Tree Condition).not.not.render leafText ≠ .ok "NOT (NOT (1))" ∧
      (empty : Tree Condition).not.not.clause.holds v ≠
        (empty : Tree Condition).clause.holds v := by
  intro leafText v
  have htwice : (empty : Tree Condition).not.not.render leafText = .ok "NOT (1)" := rfl
  refine ⟨rfl, rfl, htwice, fun h => ?_, by decide⟩
  have htext := Except.ok.inj (htwice.symm.trans h)
  exact absurd htext (by decide)

end SelectBuilder.Tree
