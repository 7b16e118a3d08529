import Mathlib.Tactic.SplitIfs
import SelectBuilder.Proofs.Outcome
import SelectBuilder.Query.Basic

/-! Runs of operations on a query, and what a run asks for. Each of the two trees of conditions is
the conjunction of what the run asks of it, from the first operation to the last; the flags and the
window are set by the operations that ask for them. -/
namespace SelectBuilder.Query

/-- One operation; one that fails leaves the query as it was. -/
def step (q : Query) (s : Step) : Query :=
  match q.apply s with
  | .ok q => q
  | .error _ => q

def run (q : Query) (steps : List Step) : Query :=
  steps.foldl step q

inductive Place where
  | whereClause | prewhereClause
  deriving DecidableEq, Repr

def Place.keyword : Place → String
  | .whereClause => "WHERE"
  | .prewhereClause => "PREWHERE"

def conditions (q : Query) : Place → Tree Condition
  | .whereClause => q.filters
  | .prewhereClause => q.prefilters

/-- A tree that rows have to meet, or that they must not meet. -/
structure Demand where
  excluded : Bool
  tree : Tree Condition

def Demand.added (d : Demand) : Tree Condition :=
  if d.excluded then d.tree.not else d.tree

def Step.demand? : Place → Step → Option Demand
  | .whereClause, .refine (.filter t) => some ⟨false, t⟩
  | .whereClause, .refine (.exclude t) => some ⟨true, t⟩
  | .prewhereClause, .refine (.prefilter t) => some ⟨false, t⟩
  | .prewhereClause, .refine (.preexclude t) => some ⟨true, t⟩
  | _, _ => none

def demands (place : Place) (steps : List Step) : List Demand :=
  steps.filterMap (·.demand? place)

theorem conditions_step (place : Place) (q : Query) (s : Step) :
    (q.step s).conditions place =
      ((s.demand? place).toList.map Demand.added).foldl Tree.and (q.conditions place) := by
  cases s with
  | refine refinement =>
    cases refinement with
    | slice start stop =>
      simp only [step, apply, refine, slice]
      cases Limits.ofBounds start stop <;> cases place <;> rfl
    | _ => cases place <;> rfl
  | only names => cases place <;> rfl
  | final =>
    simp only [step, apply, final]
    split_ifs <;> cases place <;> rfl

theorem conditions_run (place : Place) (q : Query) (steps : List Step) :
    (q.run steps).conditions place =
      ((demands place steps).map Demand.added).foldl Tree.and (q.conditions place) := by
  induction steps generalizing q with
  | nil => rfl
  | cons s rest ih =>
    have hrest : (q.run (s :: rest)).conditions place = ((q.step s).run rest).conditions place :=
      rfl
    rw [hrest, ih, conditions_step, ← List.foldl_append, ← List.map_append]
    cases h : s.demand? place <;> simp [demands, h]

def Step.isDistinct : Step → Bool
  | .refine .distinct => true
  | _ => false

/-- Whether an operation asks for rows as they are after merges. -/
def Step.isFinal : Step → Bool
  | .final => true
  | _ => false

def Step.limits? : Step → Option Limits
  | .refine (.slice start stop) => (Limits.ofBounds start stop).toOption
  | _ => none

theorem Step.isDistinct_iff {s : Step} : s.isDistinct = true ↔ s = .refine .distinct := by
  cases s with
  | refine refinement => cases refinement <;> simp [isDistinct]
  | only names => simp [isDistinct]
  | final => simp [isDistinct]

theorem Step.isFinal_iff {s : Step} : s.isFinal = true ↔ s = .final := by
  cases s <;> simp [isFinal]

theorem Step.limits?_eq_some_iff {s : Step} {limits : Limits} :
    s.limits? = some limits ↔
      ∃ start stop, s = .refine (.slice start stop) ∧ Limits.ofBounds start stop = .ok limits := by
  cases s with
  | refine refinement =>
    cases refinement with
    | slice start stop =>
      refine Outcome.toOption_eq_some.trans ⟨fun h => ⟨start, stop, rfl, h⟩, ?_⟩
      rintro ⟨_, _, ⟨⟩, h⟩
      exact h
    | _ => simp [limits?]
  | only names => simp [limits?]
  | final => simp [limits?]

/-- What one operation changes of a query, apart from its conditions, its fields and its order. -/
theorem flags_step (q : Query) (s : Step) :
    (q.step s).model = q.model ∧ (q.step s).distinct = (q.distinct || s.isDistinct) ∧
      (q.step s).isFinal = (q.isFinal || (q.model.engine.supportsFinal && s.isFinal)) ∧
      (q.step s).limits = s.limits?.or q.limits := by
  cases s with
  | refine refinement =>
    cases refinement with
    | slice start stop =>
      simp only [step, apply, refine, slice, Step.limits?]
      cases Limits.ofBounds start stop <;>
        simp [withLimits, Step.isDistinct, Step.isFinal, bind, Except.bind, pure,
        Except.pure, Except.toOption]
    | _ => simp [step, apply, refine, filter, exclude, prefilter, preexclude, orderBy, withDistinct,
      Step.isDistinct, Step.isFinal, Step.limits?]
  | only names => simp [step, apply, only, Step.isDistinct, Step.isFinal, Step.limits?]
  | final =>
    simp only [step, apply, final]
    split_ifs with h <;> simp [h, Step.isDistinct, Step.isFinal, Step.limits?]

theorem model_run (q : Query) (steps : List Step) : (q.run steps).model = q.model := by
  induction steps generalizing q with
  | nil => rfl
  | cons s rest ih => exact (ih (q.step s)).trans (flags_step q s).1

/-- A flag that operations only ever set is set after a run if it was before or if an operation of
the run sets it. -/
theorem flag_run (flag : Query → Bool) {sets : Step → Bool} {model : Model}
    (hstep : ∀ q s, q.model = model → flag (q.step s) = (flag q || sets s)) {q : Query}
    (hq : q.model = model) (steps : List Step) :
    flag (q.run steps) = (flag q || steps.any sets) := by
  induction steps generalizing q with
  | nil => exact (Bool.or_false _).symm
  | cons s rest ih =>
    have hnext : (q.step s).model = model := (flags_step q s).1.trans hq
    rw [List.any_cons, ← Bool.or_assoc, ← hstep q s hq]
    exact ih hnext

theorem distinct_run (q : Query) (steps : List Step) :
    (q.run steps).distinct = (q.distinct || steps.any Step.isDistinct) :=
  flag_run Query.distinct (fun q s _ => (flags_step q s).2.1) rfl steps

theorem isFinal_run (q : Query) (steps : List Step) :
    (q.run steps).isFinal =
      (q.isFinal || steps.any fun s => q.model.engine.supportsFinal && s.isFinal) := by
  refine flag_run Query.isFinal (fun p s hp => ?_) rfl steps
  rw [← hp]
  exact (flags_step p s).2.2.1

theorem limits_run (q : Query) (steps : List Step) :
    (q.run steps).limits.isSome = (q.limits.isSome || steps.any (·.limits?.isSome)) := by
  refine flag_run (·.limits.isSome) (fun p s _ => ?_) rfl steps
  rw [(flags_step p s).2.2.2, Option.isSome_or, Bool.or_comm]

end SelectBuilder.Query
