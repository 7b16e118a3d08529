import Mathlib.Data.List.Induction
import SelectBuilder.Proofs.Condition.Keys

/-!
Registrations, lookups and conditions in any order. A condition keeps the operator that stood under
its name when it was made, whatever is registered afterwards, and no name is ever lost.
-/
namespace SelectBuilder

namespace Registry

/-- What a program does with the registry and with the conditions that it has made. -/
inductive Call where
  | register (name : String) (operator : Operator)
  | resolve (name : String)
  /-- A condition from a lookup key. -/
  | parse (key : String) (operand : Operand)
  /-- A condition from a field and the name of an operator. -/
  | make (field name : String) (operand : Operand)
  /-- The text of a condition made earlier, by its place among them. -/
  | render (fields : FieldSet) (place : Nat)

inductive Answer where
  | registered
  | operator (found : Option Operator)
  | condition (result : Except QueryError Condition)
  | text (result : Except QueryError String)
  /-- No condition has that place. -/
  | absent

def Answer.condition? : Answer → Option Condition
  | .condition (.ok c) => some c
  | _ => none

theorem Answer.condition?_eq_some {a : Answer} {c : Condition} :
    a.condition? = some c ↔ a = .condition (.ok c) := by
  constructor
  · intro h
    unfold condition? at h
    split at h
    next => exact congrArg (fun c => condition (.ok c)) (Option.some.inj h)
    next => cases h
  · rintro rfl
    rfl

def update (registry : Registry) : Call → Registry
  | .register name operator => registry.register name operator
  | _ => registry

structure Session where
  registry : Registry
  made : List Condition

namespace Call

def registered? (name : String) : Call → Option Operator
  | .register other operator => if other = name then some operator else none
  | _ => none

/-- The field, the name of the operator and the operand that a call asks a condition for. Without an
operator behind its last separator a key is a field, compared by `eq`. -/
inductive Asks (operators : String → Option Operator) : Call → String → String → Operand → Prop
  | make {field name : String} {operand : Operand} :
      Asks operators (.make field name operand) field name operand
  | suffix {key : String} {operand : Operand} {field name : List Char}
      (hcut : Text.cutLast? Condition.separator.toList key.toList = some (field, name))
      (hname : (operators (String.ofList name)).isSome = true) :
      Asks operators (.parse key operand) (String.ofList field) (String.ofList name) operand
  | plain {key : String} {operand : Operand}
      (hname : ∀ field name,
        Text.cutLast? Condition.separator.toList key.toList = some (field, name) →
        operators (String.ofList name) = none) :
      Asks operators (.parse key operand) key "eq" operand

theorem asks_parse (operators : String → Option Operator) (key : String) (operand : Operand) :
    ∃ field name, (parse key operand).Asks operators field name operand ∧
      (name = "eq" ∨ (operators name).isSome = true) := by
  by_cases h : ∃ field name,
    Text.cutLast? Condition.separator.toList key.toList = some (field, name) ∧
      (operators (String.ofList name)).isSome = true
  · obtain ⟨field, name, hcut, hname⟩ := h
    exact ⟨_, _, .suffix hcut hname, .inr hname⟩
  · refine ⟨key, "eq", .plain fun field name hcut => ?_, .inl rfl⟩
    exact Option.not_isSome_iff_eq_none.mp fun hname => h ⟨field, name, hcut, hname⟩

end Call

/-- The operator under a name after some calls: the last one that they registered, else the one that
is there from the start. -/
def registered (calls : List Call) (name : String) : Option Operator :=
  (calls.filterMap (·.registered? name)).getLast?.or (builtin.resolve? name)

theorem resolve?_update (registry : Registry) (call : Call) (name : String) :
    (registry.update call).resolve? name = (call.registered? name).or (registry.resolve? name) := by
  cases call with
  | register other operator =>
    rw [update, register, resolve?, Entries.get?_insert, Call.registered?]
    split <;> rfl
  | _ => rfl

namespace Session

def start : Session := ⟨.builtin, []⟩

def answer (s : Session) : Call → Answer
  | .register .. => .registered
  | .resolve name => .operator (s.registry.resolve? name)
  | .parse key operand => .condition (.ok (.ofKey s.registry key operand))
  | .make field name operand => .condition (Condition.ofName s.registry field name operand)
  | .render fields place =>
    match s.made[place]? with
    | some c => .text (c.render fields)
    | none => .absent

def next (s : Session) (call : Call) : Session :=
  ⟨s.registry.update call, s.made ++ (s.answer call).condition?.toList⟩

def run (s : Session) (calls : List Call) : Session :=
  calls.foldl next s

theorem run_append (s : Session) (before after : List Call) :
    s.run (before ++ after) = (s.run before).run after :=
  List.foldl_append

theorem run_cons (s : Session) (call : Call) (after : List Call) :
    s.run (call :: after) = (s.next call).run after :=
  rfl

/-- A lookup finds the last registration. -/
theorem resolve?_run (s : Session) (calls : List Call) (name : String) :
    (s.run calls).registry.resolve? name =
      (calls.filterMap (·.registered? name)).getLast?.or (s.registry.resolve? name) := by
  induction calls generalizing s with
  | nil => rfl
  | cons call rest ih =>
    have hnext : (s.next call).registry.resolve? name =
        (call.registered? name).or (s.registry.resolve? name) :=
      s.registry.resolve?_update call name
    rw [run_cons, ih, hnext, List.filterMap_cons]
    cases call.registered? name with
    | none => rfl
    | some operator =>
      rw [List.getLast?_cons]
      cases (rest.filterMap (·.registered? name)).getLast? <;> rfl

theorem resolve?_start (calls : List Call) :
    (start.run calls).registry.resolve? = registered calls :=
  funext fun name => start.resolve?_run calls name

theorem isSome_resolve?_run {s : Session} {name : String}
    (h : (s.registry.resolve? name).isSome = true) (calls : List Call) :
    ((s.run calls).registry.resolve? name).isSome = true := by
  rw [resolve?_run, Option.isSome_or, h, Bool.or_true]

theorem registered_of_untouched {calls : List Call} {name : String}
    (h : ∀ operator, .register name operator ∉ calls) :
    registered calls name = builtin.resolve? name := by
  have hnone : calls.filterMap (·.registered? name) = [] := by
    refine List.filterMap_eq_nil_iff.mpr fun call hcall => ?_
    cases call with
    | register other operator =>
      refine if_neg fun hother => ?_
      exact h operator (hother ▸ hcall)
    | _ => rfl
  rw [registered, hnone]
  rfl

section Conditions

variable {s : Session} {call : Call} {c : Condition}

/-- The condition that a call asks for is made with the operator that the name has at that time. -/
theorem answer_of_asks {field name : String} {operand : Operand} {operator : Operator}
    (h : call.Asks s.registry.resolve? field name operand)
    (hname : s.registry.resolve? name = some operator) :
    s.answer call = .condition (.ok ⟨field, name, operator, operand⟩) := by
  cases h with
  | make => rw [answer, Condition.ofName, hname]
  | suffix hcut _ => rw [answer, Condition.ofKey_of_suffix hcut hname]
  | plain hplain => rw [answer, Condition.ofKey_of_plain hplain, default, hname, Option.getD_some]

theorem asks_of_answer (heq : (s.registry.resolve? "eq").isSome = true)
    (h : s.answer call = .condition (.ok c)) :
    call.Asks s.registry.resolve? c.field c.operatorName c.operand ∧
      s.registry.resolve? c.operatorName = some c.operator := by
  cases call with
  | parse key operand =>
    obtain ⟨field, name, hasks, hresolved⟩ := Call.asks_parse s.registry.resolve? key operand
    have hsome : (s.registry.resolve? name).isSome = true := hresolved.elim (fun h => h ▸ heq) id
    obtain ⟨operator, hname⟩ := Option.isSome_iff_exists.mp hsome
    obtain rfl := Except.ok.inj (Answer.condition.inj (h.symm.trans (answer_of_asks hasks hname)))
    exact ⟨hasks, hname⟩
  | make field name operand =>
    have hmade : Condition.ofName s.registry field name operand = .ok c := Answer.condition.inj h
    rw [Condition.ofName] at hmade
    split at hmade
    next operator hname =>
      obtain rfl := Except.ok.inj hmade
      exact ⟨.make, hname⟩
    next => cases hmade
  | render fields place =>
    rw [answer] at h
    split at h <;> cases h
  | _ => cases h

theorem answer_start_iff {calls : List Call} :
    (start.run calls).answer call = .condition (.ok c) ↔
      call.Asks (registered calls) c.field c.operatorName c.operand ∧
        registered calls c.operatorName = some c.operator := by
  have heq : ((start.run calls).registry.resolve? "eq").isSome = true :=
    isSome_resolve?_run rfl calls
  rw [← resolve?_start]
  exact ⟨asks_of_answer heq, fun ⟨hasks, hname⟩ => answer_of_asks hasks hname⟩

theorem answer_render_iff {fields : FieldSet} {place : Nat} {text : Except QueryError String} :
    s.answer (.render fields place) = .text text ↔
      ∃ c, s.made[place]? = some c ∧ c.render fields = text := by
  cases h : s.made[place]? <;> simp [answer, h]

/-- A call that makes a condition puts it behind those that are there. -/
theorem getElem?_made_next {place : Nat} :
    (s.next call).made[place]? = some c ↔
      s.made[place]? = some c ∨ s.made.length = place ∧ s.answer call = .condition (.ok c) := by
  rw [← Answer.condition?_eq_some]
  change (s.made ++ (s.answer call).condition?.toList)[place]? = some c ↔ _
  cases (s.answer call).condition? with
  | none => simp
  | some d =>
    rw [Option.toList_some, List.getElem?_append, List.getElem?_singleton]
    by_cases hplace : place < s.made.length
    · simp [hplace, Nat.ne_of_gt hplace]
    · have hzero : place - s.made.length = 0 ↔ s.made.length = place := by omega
      simp [hplace, hzero]

theorem getElem?_made_run {place : Nat} (h : s.made[place]? = some c) (calls : List Call) :
    (s.run calls).made[place]? = some c := by
  induction calls generalizing s with
  | nil => exact h
  | cons call rest ih => exact ih (getElem?_made_next.mpr (.inl h))

/-- Each condition was made by one of the calls, and stands where the conditions ended at that
time. -/
theorem getElem?_made_start_iff {calls : List Call} {place : Nat} :
    (start.run calls).made[place]? = some c ↔
      ∃ before call later, calls = before ++ call :: later ∧
        (start.run before).made.length = place ∧
        (start.run before).answer call = .condition (.ok c) := by
  constructor
  · intro h
    induction calls using List.reverseRecOn with
    | nil => simp [run, start] at h
    | append_singleton calls call ih =>
      rw [run_append] at h
      rcases getElem?_made_next.mp h with hold | ⟨hplace, hcall⟩
      · obtain ⟨before, first, later, rfl, hplace, hfirst⟩ := ih hold
        exact ⟨before, first, later ++ [call], by simp, hplace, hfirst⟩
      · exact ⟨calls, call, [], rfl, hplace, hcall⟩
  · rintro ⟨before, call, later, rfl, hplace, hcall⟩
    rw [run_append]
    exact getElem?_made_run (getElem?_made_next.mpr (.inr ⟨hplace, hcall⟩)) later

/-- The texts are those of the conditions made so far, each by the operator that stood under its
name when the condition was made. -/
theorem answer_render_start_iff {calls : List Call} {fields : FieldSet} {place : Nat}
    {text : Except QueryError String} :
    (start.run calls).answer (.render fields place) = .text text ↔
      ∃ before call later field name operand operator, calls = before ++ call :: later ∧
        (start.run before).made.length = place ∧ call.Asks (registered before) field name operand ∧
        registered before name = some operator ∧ text = operator.render fields field operand := by
  rw [answer_render_iff]
  constructor
  · rintro ⟨c, hc, rfl⟩
    obtain ⟨before, call, later, hcalls, hplace, hcall⟩ := getElem?_made_start_iff.mp hc
    obtain ⟨hasks, hname⟩ := answer_start_iff.mp hcall
    exact ⟨before, call, later, c.field, c.operatorName, c.operand, c.operator, hcalls, hplace,
      hasks, hname, rfl⟩
  · rintro ⟨before, call, later, field, name, operand, operator, hcalls, hplace, hasks, hname, rfl⟩
    have hcall : (start.run before).answer call =
        .condition (.ok ⟨field, name, operator, operand⟩) :=
      answer_start_iff.mpr ⟨hasks, hname⟩
    exact ⟨_, getElem?_made_start_iff.mpr ⟨before, call, later, hcalls, hplace, hcall⟩, rfl⟩

end Conditions

/-- In every run, a name that can be looked up can be looked up ever after. Each text is that of a
condition made earlier, by the operator that was the last one registered under its name when the
condition was made; and with `not_in` as it is from the start, that text negates the membership
test, whatever stands under `in`. -/
theorem text_as_registered_when_made (calls : List Call) :
    (∀ name operator, (start.run calls).answer (.resolve name) = .operator (some operator) →
      ∀ later, ∃ operator,
        (start.run (calls ++ later)).answer (.resolve name) = .operator (some operator)) ∧
    (∀ fields place text, (start.run calls).answer (.render fields place) = .text text ↔
      ∃ before call later field name operand operator, calls = before ++ call :: later ∧
        (start.run before).made.length = place ∧ call.Asks (registered before) field name operand ∧
        registered before name = some operator ∧ text = operator.render fields field operand) ∧
    ∀ before call later field operand, calls = before ++ call :: later →
      call.Asks (registered before) field "not_in" operand →
      (∀ operator, .register "not_in" operator ∉ before) → ∀ fields,
      (start.run calls).answer (.render fields (start.run before).made.length) =
        .text ((Operator.negation .membership).render fields field operand) := by
  refine ⟨fun name operator h later => ?names, fun fields place text => answer_render_start_iff,
    ?untouched⟩
  case names =>
    have hname : ((start.run calls).registry.resolve? name).isSome = true :=
      Option.isSome_of_eq_some (Answer.operator.inj h)
    obtain ⟨operator, hlater⟩ := Option.isSome_iff_exists.mp (isSome_resolve?_run hname later)
    rw [← run_append] at hlater
    exact ⟨operator, congrArg Answer.operator hlater⟩
  case untouched =>
    intro before call later field operand hcalls hasks huntouched fields
    have hname : registered before "not_in" = some (.negation .membership) :=
      registered_of_untouched huntouched
    exact answer_render_start_iff.mpr
      ⟨before, call, later, field, "not_in", operand, _, hcalls, rfl, hasks, hname, rfl⟩

/-- Equality, membership and its negation get another operator between the making of two conditions
and their texts. -/
theorem text_as_registered_when_made_renewed :
    let name := Operand.value (.string "Ann")
    let other := Operator.comparison "~" none
    let before : List Call := [.parse "first_name" name, .register "in" other]
    let later : List Call :=
      [.register "eq" other, .register "not_in" other, .make "first_name" "not_in" name]
    let calls := before ++ .parse "first_name__not_in" name :: later
    let s := start.run calls
    s.answer (.resolve "in") = .operator (some other) ∧
      (∃ operator,
        (start.run (calls ++ later)).answer (.resolve "in") = .operator (some operator)) ∧
      s.answer (.render Model.person.fields 0) = .text (.ok "first_name = 'Ann'") ∧
      (∀ operator, .register "not_in" operator ∉ before) ∧
      s.answer (.render Model.person.fields 1) = .text (.ok "NOT (first_name IN ('Ann'))") ∧
      s.answer (.render Model.person.fields 2) = .text (.ok "first_name ~ 'Ann'") := by
  intro name other before later calls s
  obtain ⟨hnames, htexts, huntouched⟩ := text_as_registered_when_made calls
  have hin : s.answer (.resolve "in") = .operator (some other) := rfl
  have hnot : ∀ operator, .register "not_in" operator ∉ before := by
    intro operator h
    simp [before] at h
  have hplain : (Call.parse "first_name" name).Asks (registered []) "first_name" "eq" name := by
    have hcut : Text.cutLast? Condition.separator.toList "first_name".toList = none := rfl
    exact .plain fun field suffix h => absurd (hcut.symm.trans h) (by simp)
  have hsuffix :
      (Call.parse "first_name__not_in" name).Asks (registered before) "first_name" "not_in" name :=
    .suffix rfl rfl
  have hfirst : s.answer (.render Model.person.fields 0) = .text (.ok "first_name = 'Ann'") :=
    (htexts Model.person.fields 0 _).mpr
      ⟨[], _, _, "first_name", "eq", name, equal, rfl, rfl, hplain, rfl, rfl⟩
  have hlast : s.answer (.render Model.person.fields 2) = .text (.ok "first_name ~ 'Ann'") :=
    (htexts Model.person.fields 2 _).mpr
      ⟨before ++ [_, _, _], _, [], "first_name", "not_in", name, other, rfl, rfl, .make, rfl, rfl⟩
  exact ⟨hin, hnames "in" other hin later, hfirst, hnot,
    huntouched before _ later "first_name" name rfl hsuffix hnot Model.person.fields, hlast⟩

end Session

end Registry

end SelectBuilder
