import SelectBuilder.Proofs.Query.Run

/-! What a run of operations leaves, told from the run alone. Of what operations replace the last
one stays, of what they set it stays that it was set, and conditions stay in their order. No
operation looks at what another one left, so that operations on different parts of a query may
change places. -/
namespace SelectBuilder.Query

def Step.ordering? : Step → Option (List String)
  | .refine (.orderBy names) => some names
  | _ => none

def Step.fields? : Step → Option (List String)
  | .only names => some names
  | _ => none

/-- What is left of a run: what was asked for last, what was asked for at all, and the demands on
the conditions. -/
structure Outline where
  ordering : Option (List String)
  fields : Option (List String)
  limits : Option Limits
  distinct : Bool
  isFinal : Bool
  filters : List Demand
  prefilters : List Demand

/-- Windows with bounds that are not accepted, and FINAL where the engine does not support it, are
not part of it. -/
def outline (model : Model) (steps : List Step) : Outline where
  ordering := (steps.filterMap Step.ordering?).getLast?
  fields := (steps.filterMap Step.fields?).getLast?
  limits := (steps.filterMap Step.limits?).getLast?
  distinct := steps.any Step.isDistinct
  isFinal := model.engine.supportsFinal && steps.any Step.isFinal
  filters := demands .whereClause steps
  prefilters := demands .prewhereClause steps

def Outline.query (model : Model) (o : Outline) : Query where
  model := model
  ordering := o.ordering.getD []
  filters := (o.filters.map Demand.added).foldl Tree.and .empty
  prefilters := (o.prefilters.map Demand.added).foldl Tree.and .empty
  fields := o.fields.getD []
  limits := o.limits
  distinct := o.distinct
  isFinal := o.isFinal

theorem names_step (q : Query) (s : Step) :
    (q.step s).ordering = s.ordering?.getD q.ordering ∧
    (q.step s).fields = s.fields?.getD q.fields := by
  cases s with
  | refine refinement =>
    cases refinement with
    | slice start stop =>
      simp only [step, apply, refine, slice]
      cases Limits.ofBounds start stop <;> exact ⟨rfl, rfl⟩
    | _ => exact ⟨rfl, rfl⟩
  | only names => exact ⟨rfl, rfl⟩
  | final =>
    simp only [step, apply, final]
    split_ifs <;> exact ⟨rfl, rfl⟩

/-- Of what operations replace, a run leaves what was asked for last. -/
theorem replaced_run {β : Type} {part : Query → β} {asks : Step → Option β}
    (hstep : ∀ q s, part (q.step s) = (asks s).getD (part q)) (q : Query) (steps : List Step) :
    part (q.run steps) = (steps.filterMap asks).getLast?.getD (part q) := by
  induction steps generalizing q with
  | nil => rfl
  | cons s rest ih =>
    have hrest : part (q.run (s :: rest)) = part ((q.step s).run rest) := rfl
    rw [hrest, ih, hstep]
    cases h : asks s with
    | none => rw [List.filterMap_cons_none h, Option.getD_none]
    | some b =>
      rw [List.filterMap_cons_some h, List.getLast?_cons, Option.getD_some, Option.getD_some]

theorem limits_run_eq (q : Query) (steps : List Step) :
    (q.run steps).limits = (steps.filterMap Step.limits?).getLast?.or q.limits := by
  have hstep : ∀ (q : Query) (s : Step),
      (q.step s).limits = (s.limits?.map some).getD q.limits := by
    intro q s
    rw [(flags_step q s).2.2.2]
    cases s.limits? <;> rfl
  rw [replaced_run hstep, ← List.map_filterMap, List.getLast?_map]
  cases (steps.filterMap Step.limits?).getLast? <;> rfl

theorem run_eq_query (model : Model) (steps : List Step) :
    (all model).run steps = (outline model steps).query model := by
  let q := (all model).run steps
  have hparts : q =
      ⟨q.model, q.ordering, q.filters, q.prefilters, q.fields, q.limits, q.distinct, q.isFinal⟩ :=
        rfl
  have hmodel : q.model = model := model_run (all model) steps
  have hordering : q.ordering = (steps.filterMap Step.ordering?).getLast?.getD [] :=
    replaced_run (fun q s => (names_step q s).1) (all model) steps
  have hfilters :
      q.filters = ((demands .whereClause steps).map Demand.added).foldl Tree.and .empty :=
    conditions_run .whereClause (all model) steps
  have hprefilters :
      q.prefilters = ((demands .prewhereClause steps).map Demand.added).foldl Tree.and .empty :=
    conditions_run .prewhereClause (all model) steps
  have hfields : q.fields = (steps.filterMap Step.fields?).getLast?.getD [] :=
    replaced_run (fun q s => (names_step q s).2) (all model) steps
  have hlimits : q.limits = (steps.filterMap Step.limits?).getLast? :=
    (limits_run_eq (all model) steps).trans Option.or_none
  have hdistinct : q.distinct = steps.any Step.isDistinct :=
    (distinct_run (all model) steps).trans (Bool.false_or _)
  have hfinal : q.isFinal = (model.engine.supportsFinal && steps.any Step.isFinal) := by
    rw [List.and_any_distrib_left]
    exact (isFinal_run (all model) steps).trans (Bool.false_or _)
  change q = _
  rw [hparts, hmodel, hordering, hfilters, hprefilters, hfields, hlimits, hdistinct, hfinal]
  rfl

inductive Part where
  | filters | prefilters | ordering | projection | distinct | final | limits
  deriving DecidableEq, Repr

def Step.part : Step → Part
  | .refine (.filter _) | .refine (.exclude _) => .filters
  | .refine (.prefilter _) | .refine (.preexclude _) => .prefilters
  | .refine (.orderBy _) => .ordering
  | .refine .distinct => .distinct
  | .refine (.slice ..) => .limits
  | .only _ => .projection
  | .final => .final

theorem Step.asks_in_part (s : Step) :
    (s.part ≠ .ordering → s.ordering? = none) ∧ (s.part ≠ .projection → s.fields? = none) ∧
      (s.part ≠ .limits → s.limits? = none) ∧ (s.part ≠ .filters → s.demand? .whereClause = none) ∧
      (s.part ≠ .prefilters → s.demand? .prewhereClause = none) := by
  cases s with
  | refine refinement => cases refinement <;> simp [part, ordering?, fields?, limits?, demand?]
  | only names => simp [part, ordering?, fields?, limits?, demand?]
  | final => simp [part, ordering?, fields?, limits?, demand?]

section Swapping

variable {a b : Step} (h : a.part ≠ b.part) (before after : List Step)
include h

/-- What is asked for in one part comes from one of two operations on different parts at most. -/
theorem filterMap_swap {β : Type} {asks : Step → Option β} {part : Part}
    (hasks : ∀ s : Step, s.part ≠ part → asks s = none) :
    (before ++ a :: b :: after).filterMap asks = (before ++ b :: a :: after).filterMap asks := by
  have hone : asks a = none ∨ asks b = none := by
    by_cases ha : a.part = part
    · exact .inr (hasks b fun hb => h (ha.trans hb.symm))
    · exact .inl (hasks a ha)
  rcases hone with hnone | hnone <;> simp [List.filterMap_append, List.filterMap_cons, hnone]

theorem outline_swap (model : Model) :
    outline model (before ++ a :: b :: after) = outline model (before ++ b :: a :: after) := by
  have hperm : (before ++ a :: b :: after).Perm (before ++ b :: a :: after) :=
    (List.Perm.swap b a after).append_left before
  unfold outline demands
  rw [filterMap_swap h before after fun s => s.asks_in_part.1,
    filterMap_swap h before after fun s => s.asks_in_part.2.1,
    filterMap_swap h before after fun s => s.asks_in_part.2.2.1,
    filterMap_swap h before after fun s => s.asks_in_part.2.2.2.1,
    filterMap_swap h before after fun s => s.asks_in_part.2.2.2.2, hperm.any_eq, hperm.any_eq]

end Swapping

/-- After a run, a query and its statement are those of the outline of the run, so that runs of one
outline lead to the same query, and operations that stand side by side and act on different parts
may change places. -/
theorem run_depends_on_outline (model : Model) :
    (∀ steps, (all model).run steps = (outline model steps).query model) ∧
      (∀ steps others, outline model steps = outline model others →
        (all model).run steps = (all model).run others ∧
          ((all model).run steps).sql = ((all model).run others).sql) ∧
      ∀ (before : List Step) (a b : Step) (after : List Step), a.part ≠ b.part →
        (all model).run (before ++ a :: b :: after) = (all model).run (before ++ b :: a :: after) ∧
          ((all model).run (before ++ a :: b :: after)).sql =
            ((all model).run (before ++ b :: a :: after)).sql := by
  have hrun : ∀ steps others, outline model steps = outline model others →
      (all model).run steps = (all model).run others := by
    intro steps others h
    rw [run_eq_query, run_eq_query, h]
  refine ⟨run_eq_query model, fun steps others h => ?_, fun before a b after h => ?_⟩
  · have hsame := hrun steps others h
    exact ⟨hsame, congrArg Query.sql hsame⟩
  · have hsame := hrun _ _ (outline_swap h before after model)
    exact ⟨hsame, congrArg Query.sql hsame⟩

/-- A window of reversed bounds and an unsupported FINAL leave nothing, and neither does an order
that another one follows; a refused window may stand on either side of the fields. -/
theorem run_depends_on_outline_refused :
    let sliced := Step.refine (.slice (.included 0) (.excluded 3))
    let refused := Step.refine (.slice (.included 5) (.excluded 2))
    let descending := Step.refine (.orderBy ["-height"])
    let steps :=
      [.refine (.orderBy ["height"]), sliced, .final, .only ["height"], refused, descending]
    let others := [.only ["height"], descending, sliced]
    outline .person steps = outline .person others ∧
      (all .person).run steps = (all .person).run others ∧
      ((all .person).run others).sql =
        .ok "SELECT `height`\nFROM `person`\nORDER BY height DESC\nLIMIT 0, 3" ∧
      refused.part ≠ (Step.only ["height"]).part ∧
      ((all .person).run [sliced, refused, .only ["height"], .final]).sql =
        ((all .person).run [sliced, .only ["height"], refused, .final]).sql := by
  intro sliced refused descending steps others
  obtain ⟨-, houtline, hswap⟩ := run_depends_on_outline .person
  have hsame : outline .person steps = outline .person others := rfl
  have hparts : refused.part ≠ (Step.only ["height"]).part := by decide
  exact ⟨hsame, (houtline steps others hsame).1, rfl, hparts,
    (hswap [sliced] refused (.only ["height"]) [.final] hparts).2⟩

end SelectBuilder.Query
