import SelectBuilder.Proofs.Condition.Meaning

/-! Joined, negated and collected trees. Trees without empty trees in them are closed under all
three, and the written expressions mean the conjunction, the disjunction and the negation of what
the operands mean. -/
namespace SelectBuilder

variable {α ε : Type}

namespace Connective

def apply : Connective → Bool → Bool → Bool
  | .and, p, q => p && q
  | .or, p, q => p || q

theorem apply_comm (mode : Connective) (p q : Bool) : mode.apply p q = mode.apply q p := by
  cases mode with
  | and => exact Bool.and_comm p q
  | or => exact Bool.or_comm p q

@[simp] theorem fold_and (parts : List Bool) : fold .and parts = parts.all id := by
  cases parts <;> rfl

theorem fold_or {parts : List Bool} (h : parts ≠ []) : fold .or parts = parts.any id := by
  cases parts with
  | nil => exact absurd rfl h
  | cons p rest => rfl

theorem fold_append (mode : Connective) {xs ys : List Bool} (hx : xs ≠ []) (hy : ys ≠ []) :
    mode.fold (xs ++ ys) = mode.apply (mode.fold xs) (mode.fold ys) := by
  cases mode with
  | and => simp only [fold_and, List.all_append, apply]
  | or =>
    rw [fold_or hx, fold_or hy, fold_or (List.append_ne_nil_of_left_ne_nil hx ys),
      List.any_append, apply]

theorem fold_perm (mode : Connective) {xs ys : List Bool} (h : xs.Perm ys) :
    mode.fold xs = mode.fold ys := by
  cases mode with
  | and => simp only [fold_and, h.all_eq]
  | or =>
    by_cases hx : xs = []
    · subst hx
      rw [h.nil_eq]
    · have hy : ys ≠ [] := fun hy => hx (by subst hy; exact h.eq_nil)
      rw [fold_or hx, fold_or hy, h.any_eq]

end Connective

namespace Tree

/-- Neither the tree nor a tree at any depth in it is empty. -/
inductive Filled : Tree α → Prop
  | node {mode : Connective} {negated : Bool} {leaves : List α} {children : List (Tree α)}
      (top : leaves ≠ [] ∨ children ≠ []) (below : ∀ c ∈ children, Filled c) :
      Filled (.node mode negated leaves children)

namespace Filled

theorem isEmpty_eq_false {t : Tree α} (h : t.Filled) : t.isEmpty = false := by
  cases h with
  | node top _ =>
    rcases top with h | h <;> simp [isEmpty, Tree.leaves, Tree.children, h]

theorem written_eq {children : List (Tree α)} (h : ∀ c ∈ children, c.Filled) :
    written children = children :=
  List.filter_eq_self.mpr fun c hc => by rw [(h c hc).isEmpty_eq_false]; rfl

theorem not {t : Tree α} (h : t.Filled) : t.not.Filled := by
  rw [Tree.not]
  split
  · exact .node (.inr (List.cons_ne_nil t [])) (by simpa using h)
  · cases h with
    | node top below => exact .node top below

theorem combine {a b : Tree α} (mode : Connective) (ha : a.Filled) (hb : b.Filled) :
    (combine mode a b).Filled := by
  cases ha with
  | node ta ca =>
    cases hb with
    | node tb cb =>
      have hin : ∀ {cs : List (Tree α)} {c : Tree α}, (∀ d ∈ cs, d.Filled) → c.Filled →
          ∀ d ∈ cs ++ [c], d.Filled := by
        intro cs c hcs hc d hd
        rcases List.mem_append.mp hd with h | h
        · exact hcs d h
        · exact List.mem_singleton.mp h ▸ hc
      rw [Tree.combine]
      split
      · split
        · refine .node ?_ fun d hd => (List.mem_append.mp hd).elim (ca d) (cb d)
          rcases ta with h | h
          · exact .inl (List.append_ne_nil_of_left_ne_nil h _)
          · exact .inr (List.append_ne_nil_of_left_ne_nil h _)
        · exact .node (.inr (by simp)) (hin ca (.node tb cb))
      · split
        · exact .node (.inr (by simp)) (hin cb (.node ta ca))
        · refine .node (.inr (by simp)) fun d hd => ?_
          rcases List.mem_pair.mp hd with rfl | rfl
          · exact .node ta ca
          · exact .node tb cb

end Filled

def topTruths (v : α → Bool) (t : Tree α) : List Bool :=
  t.leaves.map v ++ t.children.map (holds v)

theorem Filled.topTruths_ne_nil {t : Tree α} (h : t.Filled) (v : α → Bool) :
    t.topTruths v ≠ [] := by
  cases h with
  | node top _ =>
    rcases top with h | h
    · exact List.append_ne_nil_of_left_ne_nil (by simpa [Tree.leaves] using h) _
    · exact List.append_ne_nil_of_right_ne_nil _ (by simpa [Tree.children] using h)

theorem Filled.holds_eq {t : Tree α} (h : t.Filled) (v : α → Bool) :
    t.holds v = (t.negated ^^ t.mode.fold (t.topTruths v)) := by
  cases h with
  | node _ below => rw [holds_node, written_eq below]; rfl

theorem accepts_iff {t : Tree α} {mode : Connective} :
    t.accepts mode = true ↔ t.mode = mode ∧ t.negated = false := by
  simp [accepts]

theorem Filled.holds_of_accepts {t : Tree α} {mode : Connective} (h : t.Filled)
    (ha : t.accepts mode = true) (v : α → Bool) : t.holds v = mode.fold (t.topTruths v) := by
  obtain ⟨hm, hn⟩ := accepts_iff.mp ha
  rw [h.holds_eq, hm, hn, Bool.false_xor]

/-- Joining trees joins their truths, whichever tree takes the other one in. -/
theorem Filled.holds_combine {a b : Tree α} (mode : Connective) (ha : a.Filled) (hb : b.Filled)
    (v : α → Bool) : (Tree.combine mode a b).holds v = mode.apply (a.holds v) (b.holds v) := by
  rw [(ha.combine mode hb).holds_eq, Tree.combine]
  split
  next haccept =>
    rw [ha.holds_of_accepts haccept]
    split
    next hbaccept =>
      rw [hb.holds_of_accepts hbaccept,
        ← Connective.fold_append mode (ha.topTruths_ne_nil v) (hb.topTruths_ne_nil v)]
      refine (Bool.false_xor _).trans (mode.fold_perm ?_)
      simp only [topTruths, Tree.leaves, Tree.children, List.map_append, List.append_assoc]
      refine List.Perm.append_left _ ?_
      rw [← List.append_assoc, ← List.append_assoc]
      exact List.perm_append_comm.append_right _
    next =>
      rw [← Connective.fold_singleton mode (b.holds v),
        ← Connective.fold_append mode (ha.topTruths_ne_nil v) (List.cons_ne_nil _ _)]
      simp [topTruths, Tree.negated, Tree.mode, Tree.leaves, Tree.children]
  next =>
    split
    next hbaccept =>
      rw [hb.holds_of_accepts hbaccept, Connective.apply_comm,
        ← Connective.fold_singleton mode (a.holds v),
        ← Connective.fold_append mode (hb.topTruths_ne_nil v) (List.cons_ne_nil _ _)]
      simp [topTruths, Tree.negated, Tree.mode, Tree.leaves, Tree.children]
    next =>
      rw [← Connective.fold_singleton mode (a.holds v),
        ← Connective.fold_singleton mode (b.holds v),
        ← Connective.fold_append mode (List.cons_ne_nil _ _) (List.cons_ne_nil _ _)]
      simp [topTruths, Tree.negated, Tree.mode, Tree.leaves, Tree.children]

theorem isEmpty_not (t : Tree α) : t.not.isEmpty = (t.isEmpty && !t.negated) := by
  cases t with
  | node mode negated leaves children =>
    cases negated <;> simp [Tree.not, Tree.negated, isEmpty, Tree.leaves, Tree.children, Tree.mode]

/-- A negated tree is true where the tree is false. An empty tree that is negated twice stays false:
it goes into a new tree as an empty child, which is not written. -/
theorem holds_not (v : α → Bool) (t : Tree α) : t.not.holds v = (!t.isEmpty && !t.holds v) := by
  cases t with
  | node mode negated leaves children =>
    cases negated with
    | true =>
      cases h : (node mode true leaves children).isEmpty <;>
        simp [Tree.not, Tree.negated, holds_node, written, h]
    | false =>
      rw [Tree.not]
      simp only [Tree.negated, Bool.false_eq_true, ↓reduceIte, holds_node, Tree.mode, Tree.leaves,
        Tree.children, Bool.true_xor, Bool.false_xor]
      cases h : (node mode false leaves children).isEmpty with
      | false => simp
      | true =>
        obtain ⟨rfl, rfl⟩ := isEmpty_iff.mp h
        simp [written]

theorem holds_empty (v : α → Bool) : (empty : Tree α).holds v = true := rfl

theorem accepts_combine (mode : Connective) (a b : Tree α) :
    (combine mode a b).accepts mode = true := by
  unfold combine
  split_ifs <;> simp [accepts, Tree.mode, Tree.negated]

/-- An unnegated conjunction is true if its own parts are and each tree it takes in is. An empty
tree adds no part, whether it is negated or not. -/
theorem holds_and_of_accepts {a : Tree α} (ha : a.accepts .and = true) (t : Tree α) (v : α → Bool) :
    (a.and t).holds v = (a.holds v && (t.isEmpty || t.holds v)) := by
  cases a with
  | node ma na la ca =>
    cases t with
    | node mt nt lt ct =>
      have hflags : ma = .and ∧ na = false := accepts_iff.mp ha
      obtain ⟨rfl, rfl⟩ := hflags
      by_cases ht : (node mt nt lt ct).accepts .and = true
      · -- the parts of `t` move up; they are the same parts, so no emptiness is lost
        have hflags : mt = .and ∧ nt = false := accepts_iff.mp ht
        obtain ⟨rfl, rfl⟩ := hflags
        have hor : ((node .and false lt ct).isEmpty || (node .and false lt ct).holds v) =
            (node .and false lt ct).holds v := by
          cases h : (node .and false lt ct).isEmpty with
          | false => rfl
          | true => rw [holds_of_isEmpty h]; rfl
        rw [hor, Tree.and, combine, if_pos ha, if_pos ht]
        simp only [Tree.leaves, Tree.children, holds_node, written, Connective.fold_and,
          List.filter_append, List.map_append, List.all_append, Bool.false_xor]
        grind
      · rw [Tree.and, combine, if_pos ha, if_neg ht]
        cases h : (node mt nt lt ct).isEmpty <;>
          simp [Tree.leaves, Tree.children, holds_node, written, List.filter_append, h,
            Bool.and_assoc]

/-- A run of conjunctions is true if the start is and every tree taken in is, empty trees apart. -/
theorem holds_foldl_and {start : Tree α} (hs : start.accepts .and = true) (trees : List (Tree α))
    (v : α → Bool) : (trees.foldl Tree.and start).holds v =
      (start.holds v && trees.all fun t => t.isEmpty || t.holds v) := by
  induction trees generalizing start with
  | nil => simp
  | cons t rest ih =>
    have hnext : (start.and t).accepts .and = true := accepts_combine .and start t
    rw [List.foldl_cons, ih hnext, holds_and_of_accepts hs, List.all_cons, Bool.and_assoc]

theorem accepts_foldl_and {start : Tree α} (hs : start.accepts .and = true)
    (trees : List (Tree α)) :
    (trees.foldl Tree.and start).accepts .and = true := by
  induction trees generalizing start with
  | nil => exact hs
  | cons t rest ih => exact ih (accepts_combine .and start t)

/-- Trees are rendered as the expressions of their parts, and those of joined, negated and collected
trees mean what the boolean operations make of the meanings of their operands. -/
theorem clause_holds_compositional (leafText : α → Except ε String) (a b : Tree α) (ha : a.Filled)
    (hb : b.Filled) (v : α → Bool) :
    (∀ t : Tree α, t.render leafText = t.clause.write leafText) ∧
      ((a.and b).clause.holds v = true ↔ a.clause.holds v = true ∧ b.clause.holds v = true) ∧
      ((a.or b).clause.holds v = true ↔ a.clause.holds v = true ∨ b.clause.holds v = true) ∧
      (a.not.clause.holds v = true ↔ ¬ a.clause.holds v = true) ∧
      ∀ trees : List (Tree α), (∀ t ∈ trees, t.Filled) →
        ((all trees).clause.holds v = true ↔ ∀ t ∈ trees, t.clause.holds v = true) := by
  simp only [holds_clause]
  refine ⟨render_eq_write leafText, ?_, ?_, ?_, fun trees ht => ?_⟩
  · rw [Tree.and, ha.holds_combine .and hb]
    exact Bool.and_eq_true_iff
  · rw [Tree.or, ha.holds_combine .or hb]
    exact Bool.or_eq_true_iff
  · rw [holds_not, ha.isEmpty_eq_false]
    simp
  · rw [all, holds_foldl_and rfl, holds_empty, Bool.true_and, List.all_eq_true]
    refine forall₂_congr fun t h => ?_
    rw [(ht t h).isEmpty_eq_false, Bool.false_or]

theorem filled_leaf (a : α) : (leaf a).Filled :=
  .node (.inl (List.cons_ne_nil a [])) (by simp)

/-- A negated tree and a disjunction, of which the conjunction can use neither as its base, and the
texts of what is made of them. -/
theorem clause_holds_compositional_not_or :
    let a := (leaf "x").not
    let b := (leaf "y").or (leaf "z")
    let leafText : String → Except Empty String := Except.ok
    let v := fun name : String => name == "y"
    a.Filled ∧ b.Filled ∧
      ((a.and b).render leafText = .ok "(NOT (x)) AND ((y) OR (z))" ∧
        ((a.and b).clause.holds v = true ↔ a.clause.holds v = true ∧ b.clause.holds v = true)) ∧
      ((a.or b).render leafText = .ok "(y) OR (z) OR (NOT (x))" ∧
        ((a.or b).clause.holds v = true ↔ a.clause.holds v = true ∨ b.clause.holds v = true)) ∧
      (a.not.render leafText = .ok "NOT (NOT (x))" ∧
        (a.not.clause.holds v = true ↔ ¬ a.clause.holds v = true)) ∧
      (all [a, b, a.not]).render leafText = .ok "(NOT (x)) AND ((y) OR (z)) AND (NOT (NOT (x)))" ∧
        ((all [a, b, a.not]).clause.holds v = true ↔
          ∀ t ∈ [a, b, a.not], t.clause.holds v = true) := by
  intro a b leafText v
  have ha : a.Filled := (filled_leaf "x").not
  have hb : b.Filled := (filled_leaf "y").combine .or (filled_leaf "z")
  have hab : ∀ t ∈ [a, b, a.not], t.Filled := by
    simpa only [List.forall_mem_cons, List.not_mem_nil, false_imp_iff, implies_true, and_true] using
      ⟨ha, hb, ha.not⟩
  obtain ⟨hrender, hand, hor, hnot, hall⟩ := clause_holds_compositional leafText a b ha hb v
  exact ⟨ha, hb, ⟨(hrender _).trans rfl, hand⟩, ⟨(hrender _).trans rfl, hor⟩,
    ⟨(hrender _).trans rfl, hnot⟩, (hrender _).trans rfl, hall _ hab⟩

end Tree

end SelectBuilder
