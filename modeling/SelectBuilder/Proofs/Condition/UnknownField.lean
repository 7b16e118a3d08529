import SelectBuilder.Condition.Registry
import SelectBuilder.Proofs.Outcome

/-! Conditions on a name that no field has. The name is looked up when a literal is made for it, so
that a condition renders in spite of it exactly if it is a membership test whose members need no
literal. -/
namespace SelectBuilder

variable {fields : FieldSet} {field text : String} {operand : Operand}

/-- The members of an operand that stand in a membership test as they are given. -/
def Operand.givenMembers? : Operand → Option String
  | .value (.array []) => some ""
  | .rawSql sql => some sql
  | .subquery query => query.sql.toOption
  | _ => none

namespace FieldSet

theorem get_ne_ok (h : fields.contains field = false) (type : ColumnType) :
    fields.get field ≠ .ok type := by
  have hnone : fields.columns.get? field = none :=
    Option.not_isSome_iff_eq_none.mp (Bool.eq_false_iff.mp h)
  rw [get, hnone]
  simp

theorem literal_ne_ok (h : fields.contains field = false) (raw : Value) :
    fields.literal field raw ≠ .ok text := by
  intro hliteral
  obtain ⟨type, htype, -⟩ := Outcome.bind_eq_ok.mp hliteral
  exact get_ne_ok h type htype

end FieldSet

namespace Operator

/-- An operator that is there from the start, or such a one under any number of negations. -/
inductive Standard : Operator → Prop
  | builtin {name : String} {operator : Operator}
      (h : Registry.builtin.resolve? name = some operator) :
      Standard operator
  | negation {inner : Operator} (h : Standard inner) : Standard (.negation inner)

/-- Whether the operator is none of the application, and does not negate one. -/
def isOwn : Operator → Bool
  | .negation inner => inner.isOwn
  | .custom .. => false
  | _ => true

theorem Standard.isOwn {operator : Operator} (h : operator.Standard) : operator.isOwn = true := by
  induction h with
  | builtin h =>
    exact Entries.forall_get?_ofList (P := (·.isOwn = true)) (List.all_eq_true.mp rfl) _ _ h
  | negation _ ih => exact ih

def isMembership : Operator → Bool
  | .membership => true
  | .negation inner => inner.isMembership
  | _ => false

theorem members_unknown_iff (h : fields.contains field = false) :
    members fields field operand = .ok text ↔ operand.givenMembers? = some text := by
  have hliteral : ∀ raw s, fields.literal field raw ≠ .ok s :=
    fun raw s => FieldSet.literal_ne_ok h raw
  cases operand with
  | value v =>
    cases v with
    | array items =>
      cases items with
      | nil => exact ⟨fun h => congrArg some (Except.ok.inj h),
        fun h => congrArg Except.ok (Option.some.inj h)⟩
      | cons item rest =>
        refine iff_of_false (fun hmembers => ?_) (by simp [Operand.givenMembers?])
        obtain ⟨texts, htexts, -⟩ := Outcome.bind_eq_ok.mp hmembers
        obtain ⟨s, _, hs, -⟩ := List.forall₂_cons_left_iff.mp (Outcome.mapM_eq_ok.mp htexts)
        exact hliteral item s hs
    | _ => exact iff_of_false (hliteral _ text) (by simp [Operand.givenMembers?])
  | range low high => simp [members, Operand.givenMembers?]
  | rawSql sql => simp [members, Operand.givenMembers?]
  | subquery query =>
    cases hsql : query.sql <;> simp [members, Operand.givenMembers?, hsql, Except.toOption]

theorem betweenText_ne_ok (h : fields.contains field = false) (low high : Option Value) :
    betweenText fields field low high ≠ .ok text := by
  have hliteral : ∀ raw s, fields.literal field raw ≠ .ok s :=
    fun raw s => FieldSet.literal_ne_ok h raw
  intro hbetween
  unfold betweenText at hbetween
  split at hbetween
  next low high =>
    obtain ⟨s, hs, -⟩ := Outcome.bind_eq_ok.mp hbetween
    exact hliteral low s hs
  next low =>
    obtain ⟨s, hs, -⟩ := Outcome.bind_eq_ok.mp hbetween
    exact hliteral low s hs
  next high =>
    obtain ⟨s, hs, -⟩ := Outcome.bind_eq_ok.mp hbetween
    exact hliteral high s hs
  next => cases hbetween

/-- No operator but a membership test renders, since every other one makes a literal or asks for the
column. -/
theorem render_ne_ok (hfield : fields.contains field = false) {operator : Operator}
    (hown : operator.isOwn = true) (hmembership : operator.isMembership = false) :
    operator.render fields field operand ≠ .ok text := by
  induction operator generalizing text with
  | comparison symbol nullForm =>
    intro h
    obtain ⟨raw, -, h⟩ := Outcome.bind_eq_ok.mp h
    obtain ⟨s, hs, -⟩ := Outcome.bind_eq_ok.mp h
    exact FieldSet.literal_ne_ok hfield raw hs
  | membership => cases hmembership
  | negation inner ih =>
    intro h
    obtain ⟨s, hs, -⟩ := Outcome.bind_eq_ok.mp h
    exact ih hown hmembership hs
  | like pattern caseSensitive =>
    intro h
    obtain ⟨s, hs, -⟩ := Outcome.bind_eq_ok.mp h
    obtain ⟨type, htype, -⟩ := Outcome.bind_eq_ok.mp hs
    exact FieldSet.get_ne_ok hfield type htype
  | caselessEqual =>
    intro h
    obtain ⟨raw, -, h⟩ := Outcome.bind_eq_ok.mp h
    obtain ⟨s, hs, -⟩ := Outcome.bind_eq_ok.mp h
    exact FieldSet.literal_ne_ok hfield raw hs
  | between =>
    intro h
    obtain ⟨⟨low, high⟩, -, h⟩ := Outcome.bind_eq_ok.mp h
    exact betweenText_ne_ok hfield _ _ h
  | custom name render => cases hown

/-- Under any number of negations a membership test renders exactly if its members need no
literal. -/
theorem render_membership_iff (hfield : fields.contains field = false) {operator : Operator}
    (hmembership : operator.isMembership = true) :
    (∃ text, operator.render fields field operand = .ok text) ↔
      ∃ members, operand.givenMembers? = some members := by
  induction operator with
  | membership =>
    simp only [← members_unknown_iff hfield]
    constructor
    · rintro ⟨text, h⟩
      obtain ⟨members, hmembers, -⟩ := Outcome.bind_eq_ok.mp h
      exact ⟨members, hmembers⟩
    · rintro ⟨members, hmembers⟩
      exact ⟨_, Outcome.bind_eq_ok.mpr ⟨members, hmembers, rfl⟩⟩
  | negation inner ih =>
    rw [← ih hmembership]
    constructor
    · rintro ⟨text, h⟩
      obtain ⟨s, hs, -⟩ := Outcome.bind_eq_ok.mp h
      exact ⟨s, hs⟩
    · rintro ⟨s, hs⟩
      exact ⟨_, Outcome.bind_eq_ok.mpr ⟨s, hs, rfl⟩⟩
  | _ => cases hmembership

/-- A condition on a name that is not in the field set renders only as a membership test, negated or
not, and only if the members are none, raw SQL or a subquery that renders. -/
theorem render_unknown_field_iff (fields : FieldSet) (field : String)
    (hfield : fields.contains field = false) (operator : Operator) (hoperator : operator.Standard)
    (operand : Operand) :
    (∃ text, operator.render fields field operand = .ok text) ↔
      operator.isMembership = true ∧ ∃ members, operand.givenMembers? = some members := by
  cases hmembership : operator.isMembership with
  | true => rw [render_membership_iff hfield hmembership, eq_self, true_and]
  | false =>
    refine iff_of_false (fun ⟨text, h⟩ => ?_) (fun h => Bool.noConfusion h.1)
    exact render_ne_ok hfield hoperator.isOwn hmembership h

/-- A subquery under two negations. -/
theorem render_unknown_field_iff_subquery :
    let fields := Model.person.fields
    let operator := Operator.negation (.negation .membership)
    let operand := Operand.subquery ⟨.ok "SELECT id\nFROM `visit`", ""⟩
    fields.contains "weight" = false ∧ operator.Standard ∧
      ((∃ text, operator.render fields "weight" operand = .ok text) ↔
        operator.isMembership = true ∧ ∃ members, operand.givenMembers? = some members) := by
  intro fields operator operand
  have hfield : fields.contains "weight" = false := rfl
  have hnot : Registry.builtin.resolve? "not_in" = some (.negation .membership) := rfl
  have hoperator : operator.Standard := .negation (.builtin hnot)
  exact ⟨hfield, hoperator,
    render_unknown_field_iff fields "weight" hfield operator hoperator operand⟩

/-- Raw SQL and an empty array keep a name that is no field, and that no quotes stand around. -/
theorem membership_writes_unknown_field :
    let fields := Model.person.fields
    let name := "1 = 1 OR weight"
    fields.contains name = false ∧ Registry.builtin.resolve? "in" = some .membership ∧
      Operator.membership.render fields name (.rawSql "SELECT 1") =
        .ok "1 = 1 OR weight IN (SELECT 1)" ∧
      Operator.membership.render fields name (.value (.array [])) = .ok "1 = 1 OR weight IN ()" :=
  ⟨rfl, rfl, rfl, rfl⟩

end Operator

end SelectBuilder
