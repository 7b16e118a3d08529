import SelectBuilder.Condition.Tree
import SelectBuilder.Proofs.Outcome

/-! The boolean expression that a tree of conditions is written as, and its truth under an
assignment to the leaves. Rendering a tree writes that expression. -/
namespace SelectBuilder

variable {α β γ ε : Type}

/-- The truth of parts under a connective. No part at all counts as true. -/
def Connective.fold (mode : Connective) (parts : List Bool) : Bool :=
  match mode, parts with
  | _, [] => true
  | .and, parts => parts.all id
  | .or, parts => parts.any id

@[simp] theorem Connective.fold_nil (mode : Connective) : mode.fold [] = true := by
  cases mode <;> rfl

@[simp] theorem Connective.fold_singleton (mode : Connective) (p : Bool) : mode.fold [p] = p := by
  cases mode <;> simp [fold]

/-- A boolean expression as statements write it. -/
inductive Clause (α : Type) where
  | truth
  | atom (a : α)
  | negation (inner : Clause α)
  | join (mode : Connective) (parts : List (Clause α))

namespace Clause

mutual

def holds (v : α → Bool) : Clause α → Bool
  | .truth => true
  | .atom a => v a
  | .negation inner => !holds v inner
  | .join mode parts => mode.fold (holdsEach v parts)

def holdsEach (v : α → Bool) : List (Clause α) → List Bool
  | [] => []
  | part :: rest => holds v part :: holdsEach v rest

end

mutual

def write (atomText : α → Except ε String) : Clause α → Except ε String
  | .truth => .ok "1"
  | .atom a => atomText a
  | .negation inner => do return "NOT (" ++ (← write atomText inner) ++ ")"
  | .join mode parts => do
    return "(" ++ (") " ++ mode.keyword ++ " (").intercalate (← writeEach atomText parts) ++ ")"

def writeEach (atomText : α → Except ε String) : List (Clause α) → Except ε (List String)
  | [] => .ok []
  | part :: rest => do
    let text ← write atomText part
    let texts ← writeEach atomText rest
    return text :: texts

end

/-- Parts with a connective between them. No part is true, one part stands alone. -/
def joinParts (mode : Connective) : List (Clause α) → Clause α
  | [] => .truth
  | [part] => part
  | parts => .join mode parts

def negateIf (negated : Bool) (c : Clause α) : Clause α :=
  if negated then .negation c else c

theorem holdsEach_eq_map (v : α → Bool) (parts : List (Clause α)) :
    holdsEach v parts = parts.map (holds v) := by
  induction parts with
  | nil => rfl
  | cons part rest ih => rw [holdsEach, ih, List.map_cons]

theorem writeEach_eq_mapM (atomText : α → Except ε String) (parts : List (Clause α)) :
    writeEach atomText parts = parts.mapM (write atomText) := by
  induction parts with
  | nil => rfl
  | cons part rest ih => rw [writeEach, ih, List.mapM_cons]

theorem holds_joinParts (v : α → Bool) (mode : Connective) (parts : List (Clause α)) :
    (joinParts mode parts).holds v = mode.fold (parts.map (holds v)) := by
  match parts with
  | [] => rw [List.map_nil, Connective.fold_nil, joinParts, holds]
  | [part] => rw [List.map_singleton, Connective.fold_singleton, joinParts]
  | first :: second :: rest => simp only [joinParts, holds, holdsEach_eq_map]

theorem holds_negateIf (v : α → Bool) (negated : Bool) (c : Clause α) :
    (negateIf negated c).holds v = (negated ^^ c.holds v) := by
  cases negated <;> simp [negateIf, holds]

theorem write_joinParts (atomText : α → Except ε String) (mode : Connective)
    (parts : List (Clause α)) :
    (joinParts mode parts).write atomText = do
      return Tree.joinParts mode (← parts.mapM (write atomText)) := by
  match parts with
  | [] => rfl
  | [part] =>
    rw [joinParts, List.mapM_cons, List.mapM_nil]
    cases part.write atomText <;> rfl
  | first :: second :: rest =>
    simp only [joinParts, write, writeEach_eq_mapM, List.mapM_cons]
    cases first.write atomText with
    | error e => rfl
    | ok a =>
      cases second.write atomText with
      | error e => rfl
      | ok b => cases rest.mapM (write atomText) <;> rfl

theorem write_negateIf (atomText : α → Except ε String) (negated : Bool) (c : Clause α) :
    (negateIf negated c).write atomText = do
      return Tree.negateText negated (← c.write atomText) := by
  cases negated with
  | true => rfl
  | false => cases h : c.write atomText <;> simp [negateIf, Tree.negateText, h]

end Clause

namespace Tree

@[elab_as_elim, induction_eliminator]
theorem inductionOn {motive : Tree α → Prop}
    (node : ∀ mode negated leaves children, (∀ c ∈ children, motive c) →
      motive (.node mode negated leaves children)) (t : Tree α) : motive t := by
  refine @Tree.rec α motive (fun ts => ∀ c ∈ ts, motive c) ?_ ?_ ?_ t
  · exact node
  · simp
  · intro child rest hc hr c h
    rcases List.mem_cons.mp h with rfl | h
    · exact hc
    · exact hr c h

def written (children : List (Tree α)) : List (Tree α) :=
  children.filter fun c => !c.isEmpty

mutual

/-- A value for a tree from values of its leaves and of its children that are not empty. -/
def fold (leaf : α → β) (join : Connective → Bool → List β → β) : Tree α → β
  | .node mode negated leaves children =>
    join mode negated (leaves.map leaf ++ foldEach leaf join children)

def foldEach (leaf : α → β) (join : Connective → Bool → List β → β) : List (Tree α) → List β
  | [] => []
  | child :: rest =>
    if child.isEmpty then foldEach leaf join rest
    else fold leaf join child :: foldEach leaf join rest

end

/-- The truth of a tree: its own leaves and its children that are not empty under its connective,
turned over if the tree is negated. -/
def holds (v : α → Bool) : Tree α → Bool :=
  fold v fun mode negated parts => negated ^^ mode.fold parts

def clause : Tree α → Clause α :=
  fold .atom fun mode negated parts => .negateIf negated (.joinParts mode parts)

theorem foldEach_eq_map (leaf : α → β) (join : Connective → Bool → List β → β)
    (children : List (Tree α)) :
    foldEach leaf join children = (written children).map (fold leaf join) := by
  induction children with
  | nil => rfl
  | cons child rest ih => cases h : child.isEmpty <;> simp [foldEach, written, h, ih]

theorem fold_node (leaf : α → β) (join : Connective → Bool → List β → β) (mode : Connective)
    (negated : Bool) (leaves : List α) (children : List (Tree α)) :
    fold leaf join (.node mode negated leaves children) =
      join mode negated (leaves.map leaf ++ (written children).map (fold leaf join)) := by
  rw [fold, foldEach_eq_map]

theorem holds_node (v : α → Bool) (mode : Connective) (negated : Bool) (leaves : List α)
    (children : List (Tree α)) :
    holds v (.node mode negated leaves children) =
      (negated ^^ mode.fold (leaves.map v ++ (written children).map (holds v))) :=
  fold_node ..

theorem isEmpty_iff {t : Tree α} : t.isEmpty = true ↔ t.leaves = [] ∧ t.children = [] := by
  simp [isEmpty]

theorem holds_of_isEmpty {t : Tree α} (h : t.isEmpty = true) (v : α → Bool) :
    t.holds v = !t.negated := by
  cases t with
  | node mode negated leaves children =>
    obtain ⟨rfl, rfl⟩ := isEmpty_iff.mp h
    simp [holds_node, written, Connective.fold, Tree.negated]

theorem clause_node (mode : Connective) (negated : Bool) (leaves : List α)
    (children : List (Tree α)) :
    clause (.node mode negated leaves children) =
      .negateIf negated (.joinParts mode (leaves.map .atom ++ (written children).map clause)) :=
  fold_node ..

theorem renderChildren_eq_mapM (leafText : α → Except ε String) (children : List (Tree α)) :
    renderChildren leafText children = (written children).mapM (render leafText) := by
  induction children with
  | nil => rfl
  | cons child rest ih =>
    cases h : child.isEmpty <;> simp [renderChildren, written, h, ih, List.mapM_cons]

/-- A function that passes through the joins of two folds passes through the folds. -/
theorem map_fold (f : β → γ) {leaf : α → β} {leaf' : α → γ}
    {join : Connective → Bool → List β → β} {join' : Connective → Bool → List γ → γ}
    (hleaf : ∀ a, f (leaf a) = leaf' a)
    (hjoin : ∀ mode negated parts, f (join mode negated parts) = join' mode negated (parts.map f))
    (t : Tree α) : f (t.fold leaf join) = t.fold leaf' join' := by
  induction t with
  | node mode negated leaves children ih =>
    have hl : leaves.map (f ∘ leaf) = leaves.map leaf' := List.map_congr_left fun a _ => hleaf a
    have hc : (written children).map (f ∘ fold leaf join) =
        (written children).map (fold leaf' join') :=
      List.map_congr_left fun c hc => ih c (List.mem_filter.mp hc).1
    rw [fold_node, fold_node, hjoin, List.map_append, List.map_map, List.map_map, hl, hc]

/-- The truth of a tree is that of the expression it is written as. -/
theorem holds_clause (v : α → Bool) (t : Tree α) : t.clause.holds v = t.holds v := by
  refine map_fold (Clause.holds v) (fun a => rfl) (fun mode negated parts => ?_) t
  rw [Clause.holds_negateIf, Clause.holds_joinParts]

/-- Rendering writes the expression of the tree, and fails where a leaf in it does. -/
theorem render_eq_write (leafText : α → Except ε String) (t : Tree α) :
    t.render leafText = t.clause.write leafText := by
  induction t with
  | node mode negated leaves children ih =>
    have hchildren : (written children).mapM (render leafText) =
        (written children).mapM (Clause.write leafText ∘ clause) :=
      Outcome.mapM_congr fun c hc => ih c (List.mem_filter.mp hc).1
    have hparts :
        (leaves.map Clause.atom ++ (written children).map clause).mapM (Clause.write leafText) = do
        let own ← leaves.mapM leafText
        let nested ← (written children).mapM (render leafText)
        return own ++ nested := by
      rw [List.mapM_append, List.mapM_map, List.mapM_map, hchildren]
      rfl
    rw [render, clause_node, Clause.write_negateIf, Clause.write_joinParts, hparts,
      renderChildren_eq_mapM]
    simp only [bind_assoc, pure_bind]

end Tree

end SelectBuilder
