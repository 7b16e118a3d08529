import SelectBuilder.Condition.Basic
import SelectBuilder.Proofs.Column.Balance
import SelectBuilder.Proofs.Column.Pattern
import SelectBuilder.Proofs.Condition.Grouping
import SelectBuilder.Proofs.Condition.Members

/-! The text of a tree of conditions groups its parts as the tree does. Each operator makes a text
that reads as a leaf or as a negated leaf, so that the text alone has the value of the tree under
every assignment to the leaves. -/
namespace SelectBuilder

open Text (Balanced LiteralBody)

namespace Operator

/-- An operator whose text is made of the field, literals and words without quotes and
parentheses. -/
def isContained : Operator → Bool
  | .comparison symbol nullForm =>
    Text.plain symbol.toList && nullForm.all fun form => Text.plain form.toList
  | .membership | .caselessEqual | .between => true
  | .negation inner => inner.isContained
  | .like pattern _ => pattern.toList.all fun c => c != '\\' && c != '\x27'
  | .custom .. => false

theorem isContained_of_resolve? {name : String} {operator : Operator}
    (h : Registry.builtin.resolve? name = some operator) : operator.isContained = true := by
  refine Entries.forall_get?_ofList (P := (·.isContained = true)) ?_ name operator h
  exact List.all_eq_true.mp rfl

/-- Whether the operator or the negated one makes a LIKE pattern. -/
def isLike : Operator → Bool
  | .like .. => true
  | .negation inner => inner.isLike
  | _ => false

end Operator

theorem FieldSet.balanced_literal {fields : FieldSet} {name text : String} {raw : Value}
    (h : fields.literal name raw = .ok text) : Balanced text.toList := by
  obtain ⟨type, -, h⟩ := Outcome.bind_eq_ok.mp h
  obtain ⟨value, -, h⟩ := Outcome.bind_eq_ok.mp h
  obtain rfl := Except.ok.inj h
  exact type.balanced_literal value

namespace Operator

variable {v : Assignment} {fields : FieldSet} {field text : String} {operand : Operand}

theorem balanced_members (hk : operand.kind = .value ∨ operand.kind = .range)
    (h : members fields field operand = .ok text) : Balanced text.toList :=
  members_of_literals (P := (Balanced ·.toList)) (fun _ _ => FieldSet.balanced_literal)
    (fun _ => .commaJoin) hk h

theorem literalBody_likePattern {pattern : String}
    (hp : pattern.toList.all (fun c => c != '\\' && c != '\x27') = true)
    (ht : ∀ type, fields.get field = .ok type → type.isText = true)
    (h : likePattern pattern fields field operand = .ok text) : LiteralBody text.toList := by
  obtain ⟨type, htype, h⟩ := Outcome.bind_eq_ok.mp h
  obtain ⟨raw, -, h⟩ := Outcome.bind_eq_ok.mp h
  obtain ⟨value, hvalue, h⟩ := Outcome.bind_eq_ok.mp h
  obtain rfl := Except.ok.inj h
  have hbody :=
    ColumnType.literalBody_of_normalize (ht type htype) (Outcome.mapError_eq_ok.mp hvalue)
  rw [Text.fill, String.toList_ofList, Text.likeBody, String.toList_ofList]
  exact hbody.likeChars.fillChars fun c hc => by simpa using List.all_eq_true.mp hp c hc

theorem readsAs_betweenText {low high : Option Value} (hfield : Text.plain field.toList = true)
    (h : betweenText fields field low high = .ok text) : ReadsAs v text (v.holds text) := by
  unfold betweenText at h
  split at h
  next low high =>
    obtain ⟨lowText, hlow, h⟩ := Outcome.bind_eq_ok.mp h
    obtain ⟨highText, hhigh, h⟩ := Outcome.bind_eq_ok.mp h
    obtain rfl := Except.ok.inj h
    have hand : Balanced (" AND ".toList ++ highText.toList) :=
      Balanced.append (.of_plain rfl) (FieldSet.balanced_literal hhigh)
    have hbounds := (FieldSet.balanced_literal hlow).append hand
    exact .behindWord "BETWEEN" hfield rfl (by simp) hbounds
  next low =>
    obtain ⟨lowText, hlow, h⟩ := Outcome.bind_eq_ok.mp h
    obtain rfl := Except.ok.inj h
    exact .behindWord ">=" hfield rfl (by simp) (FieldSet.balanced_literal hlow)
  next high =>
    obtain ⟨highText, hhigh, h⟩ := Outcome.bind_eq_ok.mp h
    obtain rfl := Except.ok.inj h
    exact .behindWord "<=" hfield rfl (by simp) (FieldSet.balanced_literal hhigh)
  next => cases h

/-- What an operator renders reads as a leaf or as a negated leaf. -/
theorem readsAs_render {operator : Operator} (ho : operator.isContained = true)
    (hk : operand.kind = .value ∨ operand.kind = .range)
    (hfield : Text.plain field.toList = true)
    (hlike : operator.isLike = true → ∀ type, fields.get field = .ok type → type.isText = true)
    (h : operator.render fields field operand = .ok text) : ReadsAs v text (v.holds text) := by
  induction operator generalizing text with
  | comparison symbol nullForm =>
    obtain ⟨raw, -, h⟩ := Outcome.bind_eq_ok.mp h
    obtain ⟨literal, hliteral, h⟩ := Outcome.bind_eq_ok.mp h
    obtain rfl := Except.ok.inj h
    have hbalanced := FieldSet.balanced_literal hliteral
    obtain ⟨hplain, hforms⟩ := Bool.and_eq_true_iff.mp ho
    have hsymbol : ReadsAs v (field ++ " " ++ symbol ++ " " ++ literal)
        (v.holds (field ++ " " ++ symbol ++ " " ++ literal)) :=
      .behindWord symbol hfield hplain (by simp) hbalanced
    cases nullForm with
    | none => exact hsymbol
    | some form =>
      have hform : Text.plain form.toList = true := hforms
      unfold comparisonText
      dsimp only
      split
      · refine .behindName hfield (by simp) (.of_plain hform) fun t ht => ?_
        exact absurd (List.all_eq_true.mp hform '(' (by simp [ht])) (by decide)
      · exact hsymbol
  | membership =>
    obtain ⟨members, hmembers, h⟩ := Outcome.bind_eq_ok.mp h
    obtain rfl := Except.ok.inj h
    have hbalanced := (balanced_members hk hmembers).parenthesized
    exact .behindWord "IN" hfield rfl (by simp) hbalanced
  | negation inner ih =>
    obtain ⟨s, hs, h⟩ := Outcome.bind_eq_ok.mp h
    obtain rfl := Except.ok.inj h
    rw [v.negates]
    exact (ih ho hlike hs).negation
  | like pattern caseSensitive =>
    obtain ⟨body, hbody, h⟩ := Outcome.bind_eq_ok.mp h
    obtain rfl := Except.ok.inj h
    have hquoted := Balanced.quoted (literalBody_likePattern ho (hlike rfl) hbody)
    cases caseSensitive with
    | true => exact .behindWord "LIKE" hfield rfl (by simp [likeText]) hquoted
    | false => exact .lowered " LIKE lowerUTF8" hfield rfl (by simp [likeText]) hquoted
  | caselessEqual =>
    obtain ⟨raw, -, h⟩ := Outcome.bind_eq_ok.mp h
    obtain ⟨literal, hliteral, h⟩ := Outcome.bind_eq_ok.mp h
    obtain rfl := Except.ok.inj h
    have hbalanced := FieldSet.balanced_literal hliteral
    exact .lowered " = lowerUTF8" hfield rfl (by simp) hbalanced
  | between =>
    obtain ⟨⟨low, high⟩, -, h⟩ := Outcome.bind_eq_ok.mp h
    exact readsAs_betweenText hfield h
  | custom name render => cases ho

end Operator

/-- A leaf made with an operator that is there from the start and a value or a range. The name of
its field has no quotes and no parentheses, as names of letters, digits and underscores have none,
and LIKE stands on columns whose literals are texts. -/
structure Condition.Standard (fields : FieldSet) (c : Condition) : Prop where
  operator : ∃ name, Registry.builtin.resolve? name = some c.operator
  operand : c.operand.kind = .value ∨ c.operand.kind = .range
  field : Text.plain c.field.toList = true
  like : c.operator.isLike = true → ∀ type, fields.get c.field = .ok type → type.isText = true

/-- Whatever stands in the leaves, the text of a tree alone has the value of the tree: its own
leaves and the trees in it that are not empty under its connective, turned over if it is negated. -/
theorem Tree.read_render_holds (fields : FieldSet) (t : Tree Condition) (text : String)
    (hrender : t.render (Condition.render fields) = .ok text)
    (hleaves : ∀ c ∈ t.allLeaves, c.Standard fields) (v : Assignment) :
    (Clause.read text.toList).holds v.holds = t.holds fun c => v.truth (c.render fields) := by
  refine (readsAs_of_leaves v hrender fun c hc s hs => ?_).value
  obtain ⟨name, hname⟩ := (hleaves c hc).operator
  exact Operator.readsAs_render (Operator.isContained_of_resolve? hname) (hleaves c hc).operand
    (hleaves c hc).field (hleaves c hc).like hs

/-- Leaves with parentheses and quotes in their literals, with a connective of their own and under a
negation of their own, in a negated tree and in a tree inside it. -/
theorem Tree.read_render_holds_quoted :
    let fields := Model.person.fields
    let names := Value.array [.string "O\x27Brien", .string ") OR ("]
    let outsiders : Condition := ⟨"first_name", "not_in", .negation .membership, .value names⟩
    let numbers : Condition := ⟨"passport", "between", .between, .between (.int 1) (.int 5)⟩
    let smiths : Condition :=
      ⟨"last_name", "icontains", .like "%\x7b\x7d%" false, .value (.string "(s")⟩
    let t : Tree Condition := .node .or true [outsiders] [.node .and false [numbers, smiths] []]
    let text := "NOT ((NOT (first_name IN (\x27O\\\x27Brien\x27, \x27) OR (\x27))) OR " ++
      "((passport BETWEEN 1 AND 5) AND (lowerUTF8(last_name) LIKE lowerUTF8(\x27%(s%\x27))))"
    let v := Assignment.ofTexts fun s => s.length % 2 == 0
    t.render (Condition.render fields) = .ok text ∧ (∀ c ∈ t.allLeaves, c.Standard fields) ∧
      (Clause.read text.toList).holds v.holds = t.holds fun c => v.truth (c.render fields) := by
  intro fields names outsiders numbers smiths t text v
  have hrender : t.render (Condition.render fields) = .ok text := by rfl
  have hleaves : ∀ c ∈ t.allLeaves, c.Standard fields := by
    have houtsiders : outsiders.Standard fields :=
      ⟨⟨"not_in", rfl⟩, .inl rfl, by decide, fun h => nomatch h⟩
    have hnumbers : numbers.Standard fields :=
      ⟨⟨"between", rfl⟩, .inr rfl, by decide, fun h => nomatch h⟩
    have hsmiths : smiths.Standard fields := by
      refine ⟨⟨"icontains", rfl⟩, .inl rfl, by decide, fun _ type htype => ?_⟩
      obtain rfl := Except.ok.inj htype
      rfl
    have hall : t.allLeaves = [outsiders, numbers, smiths] := rfl
    rw [hall]
    simpa using ⟨houtsiders, hnumbers, hsmiths⟩
  exact ⟨hrender, hleaves, Tree.read_render_holds fields t text hrender hleaves v⟩

end SelectBuilder
