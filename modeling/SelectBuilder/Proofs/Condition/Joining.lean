import Mathlib.Algebra.Group.Prod
import Mathlib.Algebra.Order.Group.Multiset
import SelectBuilder.Condition.Basic
import SelectBuilder.Proofs.Condition.Parts

/-! What joined trees consist of, whatever their order. Each of the two trees gives its parts if it
accepts the connective, and itself as one child if not; the joined tree has what both give and
nothing else. Since it accepts the connective again, joining is addition of what the trees give, and
the laws of addition are laws of joining. -/
namespace SelectBuilder.Tree

variable {α ε : Type}

/-- The leaves and the children at the top of a tree, in no order. -/
def top (t : Tree α) : Multiset α × Multiset (Tree α) :=
  (t.leaves, t.children)

def given (mode : Connective) (t : Tree α) : Multiset α × Multiset (Tree α) :=
  if t.accepts mode then t.top else (0, {t})

def givenSize (mode : Connective) (t : Tree α) : Nat :=
  if t.accepts mode then t.size else 1

/-- Trees that differ in the order of the parts at their top, if at all. -/
structure Alike (t u : Tree α) : Prop where
  mode : t.mode = u.mode
  negated : t.negated = u.negated
  top : t.top = u.top

theorem top_combine (mode : Connective) (a b : Tree α) :
    (combine mode a b).top = a.given mode + b.given mode := by
  unfold combine given
  split_ifs with ha hb hb
  · rfl
  · simp [top, Tree.leaves, Tree.children, ← Multiset.coe_add]
  · -- the right tree is the base here, so that the left one goes behind the parts of the right one
    rw [add_comm]
    simp [top, Tree.leaves, Tree.children, ← Multiset.coe_add]
  · rfl

theorem given_combine (mode : Connective) (a b : Tree α) :
    (combine mode a b).given mode = a.given mode + b.given mode := by
  rw [given, if_pos (accepts_combine mode a b), top_combine]

theorem size_eq_card_top (t : Tree α) : t.size = t.top.1.card + t.top.2.card := rfl

theorem givenSize_eq_card_given (mode : Connective) (t : Tree α) :
    t.givenSize mode = (t.given mode).1.card + (t.given mode).2.card := by
  unfold givenSize given
  split
  · exact t.size_eq_card_top
  · simp

theorem size_combine (mode : Connective) (a b : Tree α) :
    (combine mode a b).size = a.givenSize mode + b.givenSize mode := by
  simp only [size_eq_card_top, givenSize_eq_card_given, top_combine, Prod.fst_add, Prod.snd_add,
    Multiset.card_add]
  omega

theorem alike_combine {mode : Connective} {a b c d : Tree α}
    (h : a.given mode + b.given mode = c.given mode + d.given mode) :
    Alike (combine mode a b) (combine mode c d) := by
  obtain ⟨habmode, habnegated⟩ := accepts_iff.mp (accepts_combine mode a b)
  obtain ⟨hcdmode, hcdnegated⟩ := accepts_iff.mp (accepts_combine mode c d)
  exact ⟨habmode.trans hcdmode.symm,
    habnegated.trans hcdnegated.symm, by rw [top_combine, top_combine, h]⟩

theorem alike_combine_comm (mode : Connective) (a b : Tree α) :
    Alike (combine mode a b) (combine mode b a) :=
  alike_combine (add_comm ..)

theorem alike_combine_assoc (mode : Connective) (a b c : Tree α) :
    Alike (combine mode (combine mode a b) c) (combine mode a (combine mode b c)) :=
  alike_combine (by rw [given_combine, given_combine, add_assoc])

section Neutral

theorem parts_node (mode : Connective) (negated : Bool) (leaves : List α)
    (children : List (Tree α)) :
    (node mode negated leaves children).parts = leaves.map leaf ++ written children := rfl

/-- A tree that is not empty is a part of its join with the empty tree, or gives its parts; the
empty tree adds none. -/
theorem parts_combine_empty (mode : Connective) {q : Tree α} (hq : q.isEmpty = false) :
    (combine mode q empty).parts = (if q.accepts mode then q.parts else [q]) ∧
      (combine mode empty q).parts = if q.accepts mode then q.parts else [q] := by
  have hleaves : (empty : Tree α).leaves = [] := rfl
  have hchildren : (empty : Tree α).children = [] := rfl
  have hone : written [q] = [q] := List.filter_cons_of_pos (by simp [hq])
  have hnone : written [(empty : Tree α)] = [] := rfl
  have hpair : written [q, empty] = [q] := by
    rw [← List.singleton_append, written_append, hone, hnone, List.append_nil]
  have hpairFlipped : written [empty, q] = [q] := hone
  have hparts : q.parts = q.leaves.map leaf ++ written q.children := rfl
  unfold combine
  split_ifs <;>
    simp [parts_node, hparts, written_append, hleaves, hchildren, hone, hnone, hpair, hpairFlipped]

/-- A tree that accepts a connective renders as one that gives it all its parts. -/
theorem render_of_parts_eq {mode : Connective} {t q : Tree α} (ht : t.accepts mode = true)
    (hparts : t.parts = if q.accepts mode then q.parts else [q]) (leafText : α → Except ε String) :
    t.render leafText = q.render leafText := by
  obtain ⟨hmode, hnegated⟩ := accepts_iff.mp ht
  rw [render_eq_parts, hparts, hmode, hnegated]
  split
  next hq =>
    obtain ⟨hqmode, hqnegated⟩ := accepts_iff.mp hq
    rw [render_eq_parts leafText q, hqmode, hqnegated]
  next =>
    rw [List.mapM_cons, List.mapM_nil]
    cases q.render leafText <;> rfl

theorem render_combine_empty (mode : Connective) {q : Tree α} (hq : q.isEmpty = false)
    (leafText : α → Except ε String) :
    (combine mode q empty).render leafText = q.render leafText ∧
      (combine mode empty q).render leafText = q.render leafText :=
  ⟨render_of_parts_eq (accepts_combine mode q empty) (parts_combine_empty mode hq).1 leafText,
    render_of_parts_eq (accepts_combine mode empty q) (parts_combine_empty mode hq).2 leafText⟩

end Neutral

/-- A joined tree has the connective, no negation, and exactly what the two trees give. So joining
is associative and commutative but for the order at the top, keeps every leaf at any depth, adds the
numbers of parts given, and with the empty tree leaves the text of any other tree, or the failure,
as it is. -/
theorem combine_collects_given (mode : Connective) (a b : Tree α) :
    ((combine mode a b).mode = mode ∧ (combine mode a b).negated = false ∧
        (combine mode a b).top = a.given mode + b.given mode) ∧
      (∀ c, Alike (combine mode (combine mode a b) c) (combine mode a (combine mode b c))) ∧
      Alike (combine mode a b) (combine mode b a) ∧
      (combine mode a b).allLeaves.Perm (a.allLeaves ++ b.allLeaves) ∧
      (combine mode a b).size = a.givenSize mode + b.givenSize mode ∧
      ∀ {ε : Type} (leafText : α → Except ε String) (q : Tree α), q.isEmpty = false →
        (combine mode q empty).render leafText = q.render leafText ∧
          (combine mode empty q).render leafText = q.render leafText := by
  obtain ⟨hmode, hnegated⟩ := accepts_iff.mp (accepts_combine mode a b)
  exact ⟨⟨hmode, hnegated, top_combine mode a b⟩, alike_combine_assoc mode a b,
    alike_combine_comm mode a b, allLeaves_combine_perm mode a b, size_combine mode a b,
    fun leafText q hq => render_combine_empty mode hq leafText⟩

/-- A negated disjunction, which becomes a child of either join, and a disjunction with an unknown
field, which stays the base of the join it accepts. -/
theorem combine_collects_given_negated :
    let leafText := Condition.render Model.person.fields
    let tree := fun key value => leaf (Condition.ofKey .builtin key (.value value))
    let q := ((tree "first_name" (.string "a")).or (tree "passport__gt" (.int 1))).not
    let failing := (tree "passport" (.int 2)).or (tree "weight" (.int 1))
    (q.isEmpty = false ∧ q.render leafText = .ok "NOT ((first_name = 'a') OR (passport > 1))" ∧
        (combine .or q empty).render leafText = q.render leafText ∧
        (combine .or empty q).render leafText = q.render leafText) ∧
      failing.isEmpty = false ∧
      failing.render leafText = .error (.fieldNotFound "person" "weight") ∧
        (combine .or failing empty).render leafText = failing.render leafText ∧
        (combine .or empty failing).render leafText = failing.render leafText := by
  intro leafText tree q failing
  have hneutral := (combine_collects_given .or q failing).2.2.2.2.2 leafText
  exact ⟨⟨rfl, rfl, hneutral q rfl⟩, rfl, rfl, hneutral failing rfl⟩

end SelectBuilder.Tree
