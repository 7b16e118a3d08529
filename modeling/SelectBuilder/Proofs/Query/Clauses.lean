import SelectBuilder.Proofs.Condition.Lines
import SelectBuilder.Proofs.Condition.Parts
import SelectBuilder.Proofs.Query.Grouping

/-! The clauses of a statement read back from its text. A statement cut at its line feeds gives one
line for each clause it has and no other, so that no value in a condition adds a clause, takes one
away or stands in for one. -/
namespace SelectBuilder

open Text (OneLine)

inductive ClauseKind where
  | selection | source | prefilter | filter | grouping | ordering | window
  deriving DecidableEq, Repr

namespace ClauseKind

def all : List ClauseKind :=
  [.selection, .source, .prefilter, .filter, .grouping, .ordering, .window]

def keyword : ClauseKind → String
  | .selection => "SELECT"
  | .source => "FROM"
  | .prefilter => "PREWHERE"
  | .filter => "WHERE"
  | .grouping => "GROUP BY"
  | .ordering => "ORDER BY"
  | .window => "LIMIT"

def ofLine? (line : String) : Option ClauseKind :=
  all.find? fun kind => (kind.keyword ++ " ").toList.isPrefixOf line.toList

theorem ofLine?_keyword (kind : ClauseKind) (body : String) :
    ofLine? (kind.keyword ++ " " ++ body) = some kind := by
  cases kind <;> simp [ofLine?, all, keyword]

end ClauseKind

namespace Select

/-- Whether a statement has a clause. The two at its head are always there. -/
def has (s : Select) : ClauseKind → Bool
  | .selection | .source => true
  | .prefilter => !s.prefilters.isEmpty
  | .filter => !s.filters.isEmpty
  | .grouping => !s.groupBy.isEmpty
  | .ordering => !s.ordering.isEmpty
  | .window => s.limits.isSome

def clauses (s : Select) : List ClauseKind :=
  ClauseKind.all.filter s.has

/-- The statement is its lines, cut where they were joined, and they start with the keywords of its
clauses. -/
def CutsIntoClauses (fields : FieldSet) (s : Select) (text : String) : Prop :=
  ∃ lines, s.lines fields = .ok lines ∧ text.toList.splitOn '\n' = lines.map String.toList ∧
    lines.map ClauseKind.ofLine? = s.clauses.map some

/-- Nothing that the statement is made of has a line feed outside the literals of its conditions. -/
structure Inline (s : Select) : Prop where
  projection : OneLine s.projection
  table : OneLine s.table
  prefilters : ∀ c ∈ s.prefilters.allLeaves, c.Inline
  filters : ∀ c ∈ s.filters.allLeaves, c.Inline
  groupBy : ∀ name ∈ s.groupBy, OneLine name
  ordering : ∀ name ∈ s.ordering, OneLine name

/-- Neither the names of a statement nor the texts of its conditions have a line feed. -/
structure Lined (fields : FieldSet) (s : Select) : Prop where
  projection : OneLine s.projection
  table : OneLine s.table
  prefilters : ∀ text, conditionsText fields s.prefilters = .ok text → OneLine text
  filters : ∀ text, conditionsText fields s.filters = .ok text → OneLine text
  groupBy : ∀ name ∈ s.groupBy, OneLine name
  ordering : ∀ name ∈ s.ordering, OneLine name

variable {fields : FieldSet} {s : Select} {lines : List String}

theorem Inline.lined (hs : s.Inline) : s.Lined fields where
  projection := hs.projection
  table := hs.table
  prefilters _ := Tree.oneLine_conditionsText fun c hc => (hs.prefilters c hc).keepsLine
  filters _ := Tree.oneLine_conditionsText fun c hc => (hs.filters c hc).keepsLine
  groupBy := hs.groupBy
  ordering := hs.ordering

theorem conditionsLine_eq_ok {keyword : String} {t : Tree Condition}
    (h : conditionsLine fields keyword t = .ok lines) :
    (t.isEmpty = true ∧ lines = []) ∨
      (t.isEmpty = false ∧ ∃ text, conditionsText fields t = .ok text ∧
        lines = [keyword ++ " " ++ text]) := by
  unfold conditionsLine at h
  split at h
  next he => exact .inl ⟨he, (Except.ok.inj h).symm⟩
  next he =>
    obtain ⟨text, htext, h⟩ := Outcome.bind_eq_ok.mp h
    exact .inr ⟨Bool.eq_false_iff.mpr he, text, htext, (Except.ok.inj h).symm⟩

theorem lines_eq_ok (h : s.lines fields = .ok lines) :
    ∃ prefilters filters, conditionsLine fields "PREWHERE" s.prefilters = .ok prefilters ∧
      conditionsLine fields "WHERE" s.filters = .ok filters ∧
      lines = [s.selectLine, s.fromLine] ++ prefilters ++ filters ++ s.groupByLine ++
      s.orderByLine ++
        s.limitLine := by
  obtain ⟨prefilters, hprefilters, h⟩ := Outcome.bind_eq_ok.mp h
  obtain ⟨filters, hfilters, h⟩ := Outcome.bind_eq_ok.mp h
  exact ⟨prefilters, filters, hprefilters, hfilters, (Except.ok.inj h).symm⟩

section Kinds

theorem kinds_present (kind : ClauseKind) (hkind : s.has kind = true) (body : String) :
    [kind.keyword ++ " " ++ body].map ClauseKind.ofLine? = ([kind].filter s.has).map some := by
  simp [hkind, ClauseKind.ofLine?_keyword]

theorem kinds_absent (kind : ClauseKind) (hkind : s.has kind = false) :
    [].map ClauseKind.ofLine? = ([kind].filter s.has).map some := by
  simp [hkind]

theorem conditionsLine_kinds (kind : ClauseKind) {t : Tree Condition}
    (hkind : s.has kind = !t.isEmpty) (h : conditionsLine fields kind.keyword t = .ok lines) :
    lines.map ClauseKind.ofLine? = ([kind].filter s.has).map some := by
  obtain ⟨he, rfl⟩ | ⟨he, text, -, rfl⟩ := conditionsLine_eq_ok h
  · exact kinds_absent kind (by simp [hkind, he])
  · exact kinds_present kind (by simp [hkind, he]) text

theorem groupByLine_kinds (s : Select) :
    s.groupByLine.map ClauseKind.ofLine? = ([.grouping].filter s.has).map some := by
  unfold groupByLine
  split
  next he => exact kinds_absent .grouping (by simp [has, he])
  next he =>
    rw [String.append_assoc]
    exact kinds_present .grouping (by simp [has, he]) _

theorem orderByLine_kinds (s : Select) :
    s.orderByLine.map ClauseKind.ofLine? = ([.ordering].filter s.has).map some := by
  unfold orderByLine
  split
  next he => exact kinds_absent .ordering (by simp [has, he])
  next he => exact kinds_present .ordering (by simp [has, he]) _

theorem limitLine_kinds (s : Select) :
    s.limitLine.map ClauseKind.ofLine? = ([.window].filter s.has).map some := by
  unfold limitLine
  cases he : s.limits with
  | none => exact kinds_absent .window (by simp [has, he])
  | some limits =>
    change [limitText limits].map _ = _
    rw [limitText, String.append_assoc, String.append_assoc]
    exact kinds_present .window (by simp [has, he]) _

theorem head_kinds (s : Select) :
    [s.selectLine, s.fromLine].map ClauseKind.ofLine? = [.selection, .source].map some := by
  have hselect : ClauseKind.ofLine? s.selectLine = some .selection := by
    rw [selectLine, String.append_assoc]
    exact ClauseKind.ofLine?_keyword .selection _
  have hsource : ClauseKind.ofLine? s.fromLine = some .source := by
    rw [fromLine, String.append_assoc]
    exact ClauseKind.ofLine?_keyword .source _
  simp only [List.map, hselect, hsource]

theorem lines_kinds (h : s.lines fields = .ok lines) :
    lines.map ClauseKind.ofLine? = s.clauses.map some := by
  obtain ⟨prefilters, filters, hprefilters, hfilters, rfl⟩ := lines_eq_ok h
  have hclauses : s.clauses = [.selection, .source] ++ [.prefilter].filter s.has ++
      [.filter].filter s.has ++
      [.grouping].filter s.has ++ [.ordering].filter s.has ++ [.window].filter s.has := by
    have hhead : [ClauseKind.selection, .source] = [.selection, .source].filter s.has := rfl
    rw [hhead]
    simp only [← List.filter_append]
    rfl
  simp only [hclauses, List.map_append, head_kinds, groupByLine_kinds, orderByLine_kinds,
    limitLine_kinds, conditionsLine_kinds (s := s) .prefilter rfl hprefilters,
    conditionsLine_kinds (s := s) .filter rfl hfilters]

end Kinds

theorem oneLine_orderingTerm {name : String} (h : OneLine name) : OneLine (orderingTerm name) := by
  unfold orderingTerm
  split
  next rest hname =>
    have hrest : OneLine (String.ofList rest) := by
      rw [Text.oneLine_ofList]
      exact fun hmem => h (hname ▸ List.mem_cons_of_mem _ hmem)
    simp +decide [hrest]
  next => exact h

theorem oneLine_conditionsLine {keyword : String} {t : Tree Condition} (hkeyword : OneLine keyword)
    (hconditions : ∀ text, conditionsText fields t = .ok text → OneLine text)
    (h : conditionsLine fields keyword t = .ok lines) : ∀ line ∈ lines, OneLine line := by
  obtain ⟨-, rfl⟩ | ⟨-, text, htext, rfl⟩ := conditionsLine_eq_ok h
  · exact List.forall_mem_nil _
  · simp +decide [hkeyword, hconditions text htext]

theorem oneLine_limitText (limits : Limits) : OneLine (limitText limits) := by
  have hoffset := Text.oneLine_of_bare (Numeral.bare_nat limits.offset.toNat)
  have hcount := Text.oneLine_of_bare (Numeral.bare_nat limits.count.toNat)
  rw [limitText]
  simp +decide only [Text.oneLine_append, hoffset, hcount]

theorem oneLine_groupByLine (hs : ∀ name ∈ s.groupBy, OneLine name) :
    ∀ line ∈ s.groupByLine, OneLine line := by
  have hnames := Text.oneLine_commaJoin
    (List.forall_mem_map.mpr fun name hname => Text.oneLine_identifier (hs name hname))
  unfold groupByLine
  split
  · exact List.forall_mem_nil _
  · cases s.withTotals <;> simp +decide [hnames]

theorem oneLine_orderByLine (hs : ∀ name ∈ s.ordering, OneLine name) :
    ∀ line ∈ s.orderByLine, OneLine line := by
  have hnames := Text.oneLine_commaJoin
    (List.forall_mem_map.mpr fun name hname => oneLine_orderingTerm (hs name hname))
  unfold orderByLine
  split
  · exact List.forall_mem_nil _
  · simp +decide [hnames]

theorem Lined.oneLine (hs : s.Lined fields) (h : s.lines fields = .ok lines) :
    ∀ line ∈ lines, OneLine line := by
  obtain ⟨prefilters, filters, hprefilters, hfilters, rfl⟩ := lines_eq_ok h
  have hselect : OneLine s.selectLine := by
    unfold selectLine
    cases s.distinct <;> simp +decide [hs.projection]
  have hsource : OneLine s.fromLine := by
    have hname := Text.oneLine_identifier hs.table
    unfold fromLine
    cases s.isFinal <;> simp +decide [hname]
  have hlimit : ∀ line ∈ s.limitLine, OneLine line :=
    List.forall_mem_map.mpr fun limits _ => oneLine_limitText limits
  have hprefilter := oneLine_conditionsLine (by decide) hs.prefilters hprefilters
  have hfilter := oneLine_conditionsLine (by decide) hs.filters hfilters
  have hgroupBy := oneLine_groupByLine hs.groupBy
  have horderBy := oneLine_orderByLine hs.ordering
  simp only [List.forall_mem_append, List.forall_mem_cons]
  exact ⟨⟨⟨⟨⟨⟨hselect, hsource, List.forall_mem_nil _⟩, hprefilter⟩, hfilter⟩, hgroupBy⟩, horderBy⟩,
    hlimit⟩

theorem Inline.cutsIntoClauses {text : String} (hs : s.Inline) (h : s.sql fields = .ok text) :
    s.CutsIntoClauses fields text := by
  obtain ⟨lines, hlines, h⟩ := Outcome.bind_eq_ok.mp h
  obtain rfl := Except.ok.inj h
  have hkinds := lines_kinds hlines
  have hne : lines ≠ [] := by
    rintro rfl
    cases hkinds
  exact ⟨lines, hlines, Text.splitOn_lines hne (hs.lined.oneLine hlines), hkinds⟩

end Select

namespace Query

/-- The names of a query have no line feed, and its conditions are made of values and ranges. -/
structure Inline (q : Query) : Prop where
  table : OneLine q.model.table
  fields : ∀ name ∈ q.fields, OneLine name
  prefilters : ∀ c ∈ q.prefilters.allLeaves, c.Inline
  filters : ∀ c ∈ q.filters.allLeaves, c.Inline
  ordering : ∀ name ∈ q.ordering, OneLine name

theorem oneLine_projection {q : Query} (h : ∀ name ∈ q.fields, OneLine name) :
    OneLine q.projection := by
  have hnames := Text.oneLine_commaJoin
    (List.forall_mem_map.mpr fun name hname => Text.oneLine_identifier (h name hname))
  unfold projection
  split
  · decide
  · exact hnames

theorem Inline.select {q : Query} (hq : q.Inline) : q.select.Inline where
  projection := oneLine_projection hq.fields
  table := hq.table
  prefilters := hq.prefilters
  filters := hq.filters
  groupBy := List.forall_mem_nil _
  ordering := hq.ordering

structure KeepsLines (q : Query) : Prop where
  table : OneLine q.model.table
  fields : ∀ name ∈ q.fields, OneLine name
  prefilters : ∀ c ∈ q.prefilters.allLeaves, c.KeepsLine
  filters : ∀ c ∈ q.filters.allLeaves, c.KeepsLine
  ordering : ∀ name ∈ q.ordering, OneLine name

theorem keepsLines_all {model : Model} (h : OneLine model.table) : (all model).KeepsLines := by
  have hnone : ∀ c ∈ (Tree.empty : Tree Condition).allLeaves, c.KeepsLine := by
    rw [Tree.allLeaves_of_isEmpty rfl]
    exact List.forall_mem_nil _
  exact ⟨h, List.forall_mem_nil _, hnone, hnone, List.forall_mem_nil _⟩

theorem KeepsLines.lined {q : Query} (hq : q.KeepsLines) (fields : FieldSet) :
    q.select.Lined fields where
  projection := oneLine_projection hq.fields
  table := hq.table
  prefilters _ := Tree.oneLine_conditionsText hq.prefilters
  filters _ := Tree.oneLine_conditionsText hq.filters
  groupBy := List.forall_mem_nil _
  ordering := hq.ordering

end Query

namespace Aggregate

structure Inline (a : Aggregate) : Prop where
  base : a.base.Inline
  grouping : ∀ name ∈ a.grouping, OneLine name
  calculated : ∀ name ∈ a.calculated.names, OneLine name
  expressions : ∀ entry ∈ a.calculated.toList, OneLine entry.2

theorem oneLine_projection {a : Aggregate} (hgrouping : ∀ name ∈ a.grouping, OneLine name)
    (hcalculated : ∀ name ∈ a.calculated.names, OneLine name)
    (hexpressions : ∀ entry ∈ a.calculated.toList, OneLine entry.2) : OneLine a.projection := by
  refine Text.oneLine_commaJoin
    (List.forall_mem_append.mpr ⟨hgrouping, List.forall_mem_map.mpr fun entry h => ?_⟩)
  have hname := hcalculated entry.1 (List.mem_map_of_mem h)
  simp +decide [hname, hexpressions entry h]

theorem Inline.select {a : Aggregate} (ha : a.Inline) (hgrouped : a.Grouped) : a.select.Inline where
  projection := oneLine_projection ha.grouping ha.calculated ha.expressions
  table := ha.base.table
  prefilters := ha.base.prefilters
  filters := ha.base.filters
  groupBy := hgrouped.forall_groupNames ha.grouping ha.calculated
  ordering := ha.base.ordering

structure KeepsLines (a : Aggregate) : Prop where
  base : a.base.KeepsLines
  grouping : ∀ name ∈ a.grouping, OneLine name
  calculated : ∀ name ∈ a.calculated.names, OneLine name
  expressions : ∀ entry ∈ a.calculated.toList, OneLine entry.2
  groupNames : ∀ name ∈ a.groupNames, OneLine name

theorem KeepsLines.lined {a : Aggregate} (ha : a.KeepsLines) (fields : FieldSet) :
    a.select.Lined fields where
  projection := oneLine_projection ha.grouping ha.calculated ha.expressions
  table := ha.base.table
  prefilters _ := Tree.oneLine_conditionsText ha.base.prefilters
  filters _ := Tree.oneLine_conditionsText ha.base.filters
  groupBy := ha.groupNames
  ordering := ha.base.ordering

end Aggregate

/-- The statement of a query, and of an aggregation that operations lead to, cuts into its
clauses. -/
theorem Select.sql_cutsIntoClauses :
    (∀ (q : Query) (text : String), q.Inline → q.sql = .ok text →
      q.select.CutsIntoClauses q.model.fields text) ∧
    ∀ (a : Aggregate) (text : String), a.Reachable → a.Inline → a.sql = .ok text →
      a.select.CutsIntoClauses a.base.model.fields text :=
  ⟨fun _ _ hq h => hq.select.cutsIntoClauses h,
    fun _ _ hreachable ha h => (ha.select hreachable.grouped).cutsIntoClauses h⟩

/-- A value that looks like a clause, in a query and in an aggregation. -/
theorem Select.sql_cutsIntoClauses_forged :
    let forged := Condition.ofKey .builtin "first_name" (.value (.string "x\nLIMIT 0, 1"))
    let q := (Query.all .person).filter (.leaf forged)
    let a : Aggregate := ⟨q, ["last_name"], ⟨[("n", "count()")]⟩, ["n"], false⟩
    let queryText := "SELECT *\nFROM `person`\nWHERE first_name = 'x\\nLIMIT 0, 1'"
    let aggregateText := "SELECT last_name, count() AS n\nFROM `person`\n" ++
      "WHERE first_name = 'x\\nLIMIT 0, 1'\nGROUP BY `n`"
    (q.Inline ∧ q.sql = .ok queryText ∧ q.select.CutsIntoClauses q.model.fields queryText) ∧
      a.Reachable ∧ a.Inline ∧ a.sql = .ok aggregateText ∧
        a.select.CutsIntoClauses a.base.model.fields aggregateText := by
  intro forged q a queryText aggregateText
  have hoperator : Registry.builtin.resolve? "eq" = some forged.operator := rfl
  have hfield : OneLine "first_name" := by decide
  have htable : OneLine "person" := by decide
  have hnone : q.prefilters.allLeaves = [] := rfl
  have hleaves : q.filters.allLeaves = [forged] := rfl
  have hq : q.Inline := by
    refine ⟨htable, List.forall_mem_nil _, ?_, ?_, List.forall_mem_nil _⟩
    · rw [hnone]
      exact List.forall_mem_nil _
    · rw [hleaves]
      exact fun c hc => List.mem_singleton.mp hc ▸ ⟨.builtin hoperator, .inl rfl, hfield⟩
  have hqueryText : q.sql = .ok queryText := rfl
  have hstart : q.aggregate ["last_name"] [("n", "count()")] =
      .ok { a with groupNames := ["last_name"] } := rfl
  have hgroupBy : ({ a with groupNames := ["last_name"] } : Aggregate).apply (.groupBy ["n"]) =
    .ok a := rfl
  have hreachable : a.Reachable := .apply (.start hstart) hgroupBy
  have ha : a.Inline := ⟨hq, by decide, by decide, by decide⟩
  have haggregateText : a.sql = .ok aggregateText := rfl
  exact ⟨⟨hq, hqueryText, sql_cutsIntoClauses.1 q queryText hq hqueryText⟩, hreachable, ha,
    haggregateText, sql_cutsIntoClauses.2 a aggregateText hreachable ha haggregateText⟩

end SelectBuilder
