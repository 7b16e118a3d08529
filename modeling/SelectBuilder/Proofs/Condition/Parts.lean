import SelectBuilder.Proofs.Condition.Composition
import SelectBuilder.Proofs.Condition.Grouping

/-! What a joined tree is made of. Joining loses no part and repeats none, neither at the top nor
among the leaves at any depth, and a tree renders exactly if all its leaves do. -/
namespace SelectBuilder.Tree

variable {α ε : Type}

/-- What stands at the top of a tree: its own leaves, and its children that are not empty. -/
def parts (t : Tree α) : List (Tree α) :=
  t.leaves.map leaf ++ written t.children

theorem written_append (xs ys : List (Tree α)) : written (xs ++ ys) = written xs ++ written ys :=
  List.filter_append ..

theorem render_leaf (leafText : α → Except ε String) (a : α) :
    (leaf a).render leafText = leafText a := by
  rw [leaf, render, List.mapM_cons, List.mapM_nil]
  cases leafText a <;> rfl

theorem render_eq_parts (leafText : α → Except ε String) (t : Tree α) :
    t.render leafText = do
      return negateText t.negated (joinParts t.mode (← t.parts.mapM (render leafText))) := by
  cases t with
  | node mode negated leaves children =>
    have hleaves : render leafText ∘ leaf = leafText := funext (render_leaf leafText)
    rw [render, renderChildren_eq_mapM, parts, List.mapM_append, List.mapM_map, hleaves]
    simp only [bind_assoc, pure_bind, Tree.leaves, Tree.children, Tree.negated, Tree.mode]

/-- Trees that accept the connective give all their parts to the joined tree. -/
theorem parts_combine_perm {mode : Connective} {a b : Tree α} (ha : a.accepts mode = true)
    (hb : b.accepts mode = true) : (combine mode a b).parts.Perm (a.parts ++ b.parts) := by
  rw [combine, if_pos ha, if_pos hb]
  simp only [parts, Tree.leaves, Tree.children, List.map_append, written_append, List.append_assoc]
  refine List.Perm.append_left _ ?_
  rw [← List.append_assoc, ← List.append_assoc]
  exact List.perm_append_comm.append_right _

theorem allLeaves_of_isEmpty {t : Tree α} (h : t.isEmpty = true) : t.allLeaves = [] := by
  cases t with
  | node mode negated leaves children =>
    obtain ⟨rfl, rfl⟩ := isEmpty_iff.mp h
    rfl

/-- Empty trees have no leaves, so that it does not matter here that they are not written. -/
theorem flatMap_allLeaves_written (children : List (Tree α)) :
    (written children).flatMap allLeaves = children.flatMap allLeaves := by
  induction children with
  | nil => rfl
  | cons child rest ih =>
    cases h : child.isEmpty with
    | false =>
      rw [written, List.filter_cons_of_pos (by simp [h]), List.flatMap_cons, List.flatMap_cons,
        ← ih, written]
    | true =>
      rw [written, List.filter_cons_of_neg (by simp [h]), List.flatMap_cons, allLeaves_of_isEmpty h,
        List.nil_append, ← ih, written]

theorem allLeaves_node (mode : Connective) (negated : Bool) (leaves : List α)
    (children : List (Tree α)) :
    (node mode negated leaves children).allLeaves = leaves ++ children.flatMap allLeaves := by
  have hleaves : (leaves.map fun a => [a]).flatten = leaves := by
    rw [← List.flatMap_def, List.flatMap_singleton']
  have hchildren : ((written children).map allLeaves).flatten = children.flatMap allLeaves := by
    rw [← List.flatMap_def, flatMap_allLeaves_written]
  rw [allLeaves, fold_node, List.flatten_append, hleaves]
  exact congrArg _ hchildren

theorem allLeaves_combine_perm (mode : Connective) (a b : Tree α) :
    (combine mode a b).allLeaves.Perm (a.allLeaves ++ b.allLeaves) := by
  cases a with
  | node ma na la ca =>
    cases b with
    | node mb nb lb cb =>
      rw [combine]
      split_ifs
      · simp only [Tree.leaves, Tree.children, allLeaves_node, List.flatMap_append,
          List.append_assoc]
        refine List.Perm.append_left _ ?_
        rw [← List.append_assoc, ← List.append_assoc]
        exact List.perm_append_comm.append_right _
      · simp [Tree.leaves, Tree.children, allLeaves_node]
      · simp only [Tree.leaves, Tree.children, allLeaves_node mode, List.flatMap_append,
          List.flatMap_singleton, allLeaves_node mb]
        rw [← List.append_assoc]
        exact List.perm_append_comm
      · simp [allLeaves_node mode]

theorem findSome?_flatMap {β γ : Type} (f : α → List β) (g : β → Option γ) (xs : List α) :
    (xs.flatMap f).findSome? g = xs.findSome? fun x => (f x).findSome? g := by
  induction xs with
  | nil => rfl
  | cons x rest ih =>
    rw [List.flatMap_cons, List.findSome?_append, ih, List.findSome?_cons]
    cases (f x).findSome? g <;> rfl

/-- The first leaf that fails decides the failure of a tree. -/
theorem failure?_render (leafText : α → Except ε String) (t : Tree α) :
    Outcome.failure? (t.render leafText) = t.allLeaves.findSome? fun a =>
      Outcome.failure? (leafText a) := by
  induction t with
  | node mode negated leaves children ih =>
    have hown : Outcome.failure? (leaves.mapM leafText) = leaves.findSome? fun a =>
      Outcome.failure? (leafText a) :=
      Outcome.failure?_mapM fun _ _ => rfl
    have hnested : Outcome.failure? ((written children).mapM (render leafText)) =
        (children.flatMap allLeaves).findSome? fun a => Outcome.failure? (leafText a) := by
      rw [← flatMap_allLeaves_written, findSome?_flatMap]
      exact Outcome.failure?_mapM fun c hc => ih c (List.mem_filter.mp hc).1
    rw [allLeaves_node, List.findSome?_append, ← hown, ← hnested, render, renderChildren_eq_mapM]
    exact Outcome.failure?_bind fun own => Outcome.failure?_bind_pure _ _

theorem isOk_render (leafText : α → Except ε String) (t : Tree α) :
    (t.render leafText).isOk = t.allLeaves.all fun a => (leafText a).isOk :=
  Outcome.isOk_eq_all_of_failure? (t.failure?_render leafText)

theorem allLeaves_not (t : Tree α) : t.not.allLeaves = t.allLeaves := by
  cases t with
  | node mode negated leaves children =>
    unfold Tree.not
    split
    next => rw [allLeaves_node, List.flatMap_singleton, List.nil_append]
    next => rw [allLeaves_node, allLeaves_node, Tree.leaves, Tree.children]

end SelectBuilder.Tree
