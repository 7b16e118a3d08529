import SelectBuilder.Proofs.Query.Aggregation
import SelectBuilder.Proofs.Query.Clauses
import SelectBuilder.Proofs.Text.Identifiers

/-! Names in a statement, listed as fields or in the GROUP BY clause. They take a place in the text
that does not depend on them, and from there they read back, up to the end of the list, exactly if
no name holds a backquote or the reader's mark. Names are written as they are: one with a backquote
ends its identifier early, and no reader finds it again. -/
namespace SelectBuilder

open Text (FitsIdentifier EndsIdentifiers readIdentifiers)

def identifierList (names : List String) : String :=
  Text.commaJoin (names.map Text.identifier)

/-- From the place of the names on, a text reads as the names and leaves what follows them, exactly
if all of them fit. -/
def ReadBackIfFitting (mark : Char) (names : List String) (after : String) : Prop :=
  readIdentifiers mark (identifierList names ++ after).toList = some (names, after.toList) ↔
    ∀ name ∈ names, FitsIdentifier mark name

theorem readBackIfFitting {mark : Char} {names : List String} (hne : names ≠ []) {after : String}
    (hafter : EndsIdentifiers after.toList) : ReadBackIfFitting mark names after := by
  rw [ReadBackIfFitting, String.toList_append]
  exact Text.readIdentifiers_iff hne hafter

namespace Select

variable {fields : FieldSet} {s : Select} {prefilters filters : List String}

theorem sql_eq_ok (hprefilters : conditionsLine fields "PREWHERE" s.prefilters = .ok prefilters)
    (hfilters : conditionsLine fields "WHERE" s.filters = .ok filters) :
    s.sql fields =
      .ok ("\n".intercalate ([s.selectLine, s.fromLine] ++ prefilters ++ filters ++ s.groupByLine ++
      s.orderByLine ++ s.limitLine)) := by
  rw [sql, lines, hprefilters, hfilters]
  rfl

theorem exists_conditionsLines (h : (s.sql fields).isOk = true) :
    ∃ prefilters filters, conditionsLine fields "PREWHERE" s.prefilters = .ok prefilters ∧
      conditionsLine fields "WHERE" s.filters = .ok filters := by
  obtain ⟨text, htext⟩ := Outcome.isOk_iff.mp h
  obtain ⟨lines, hlines, -⟩ := Outcome.bind_eq_ok.mp htext
  obtain ⟨prefilters, filters, hprefilters, hfilters, -⟩ := lines_eq_ok hlines
  exact ⟨prefilters, filters, hprefilters, hfilters⟩

/-- What stands behind a line: the lines that follow it, if there are any. -/
def behindLine : List String → String
  | [] => ""
  | line :: lines => "\n" ++ "\n".intercalate (line :: lines)

theorem intercalate_line (line : String) (lines : List String) :
    "\n".intercalate (line :: lines) = line ++ behindLine lines := by
  cases lines with
  | nil => simp [behindLine]
  | cons next more => rw [String.intercalate_cons_cons, behindLine, String.append_assoc]

theorem endsIdentifiers_behindLine (lines : List String) :
    EndsIdentifiers (behindLine lines).toList := by
  cases lines with
  | nil => exact ⟨by decide, by decide⟩
  | cons next more =>
    have hfirst : (behindLine (next :: more)).toList.head? = some '\n' := by simp [behindLine]
    rw [EndsIdentifiers, hfirst]
    decide

end Select

theorem Query.projection_only (q : Query) {names : List String} (hne : names ≠ []) :
    (q.only names).projection = identifierList names := by
  have hnames : ¬ names.isEmpty = true := by simpa using hne
  exact if_neg hnames

/-- The fields of a query take a place behind the keyword that does not depend on them. -/
theorem Query.exists_behind_fields {q : Query} (h : q.sql.isOk = true) :
    ∃ after, EndsIdentifiers after.toList ∧ ∀ names, names ≠ [] → (q.only names).sql =
      .ok ("SELECT " ++ (if q.distinct then "DISTINCT " else "") ++ identifierList names ++
        after) := by
  obtain ⟨prefilters, filters, hprefilters, hfilters⟩ := Select.exists_conditionsLines h
  let lines :=
    q.select.fromLine :: prefilters ++ filters ++ q.select.groupByLine ++ q.select.orderByLine ++
    q.select.limitLine
  refine ⟨Select.behindLine lines, Select.endsIdentifiers_behindLine lines, fun names hne => ?_⟩
  have hline : (q.only names).select.selectLine =
      "SELECT " ++ (if q.distinct then "DISTINCT " else "") ++ identifierList names := by
    rw [← q.projection_only hne]
    rfl
  have hsql : (q.only names).sql = _ := Select.sql_eq_ok hprefilters hfilters
  rw [hsql, ← hline, ← Select.intercalate_line]
  rfl

theorem Aggregate.groupBy_eq_ok {a b : Aggregate} {names : List String}
    (h : a.groupBy names = .ok b) :
    b = { a with groupNames := names } := by
  unfold groupBy at h
  split at h
  · cases h
  · exact (Except.ok.inj h).symm

/-- The names of a GROUP BY clause take a place in the statement that does not depend on them. -/
theorem Aggregate.exists_around_groupNames {a : Aggregate} (h : a.sql.isOk = true) :
    ∃ before after, EndsIdentifiers after.toList ∧ ∀ names b, names ≠ [] → a.groupBy names = .ok b →
      b.sql = .ok (before ++ "\nGROUP BY " ++ identifierList names ++ after) := by
  obtain ⟨prefilters, filters, hprefilters, hfilters⟩ := Select.exists_conditionsLines h
  let head := [a.select.selectLine, a.select.fromLine] ++ prefilters ++ filters
  let lines := a.select.orderByLine ++ a.select.limitLine
  let totals := if a.withTotals then " WITH TOTALS" else ""
  refine ⟨"\n".intercalate head, totals ++ Select.behindLine lines, ?_, fun names b hne hb => ?_⟩
  · cases hwith : a.withTotals with
    | false => simpa [totals, hwith] using Select.endsIdentifiers_behindLine lines
    | true =>
      have hfirst : (totals ++ Select.behindLine lines).toList.head? = some ' ' := by
        simp [totals, hwith]
      rw [EndsIdentifiers, hfirst]
      decide
  · obtain rfl : b = { a with groupNames := names } := groupBy_eq_ok hb
    have hline : ({ a with groupNames := names } : Aggregate).select.groupByLine =
        ["GROUP BY " ++ identifierList names ++ totals] := by
      have hnames : ¬ names.isEmpty = true := by simpa using hne
      exact if_neg hnames
    have hsql : ({ a with groupNames := names } : Aggregate).sql = .ok ("\n".intercalate
        (head ++ ({ a with groupNames := names } : Aggregate).select.groupByLine ++
          a.select.orderByLine ++
          a.select.limitLine)) := Select.sql_eq_ok hprefilters hfilters
    rw [hsql, hline, List.append_assoc, List.append_assoc, List.singleton_append,
      String.intercalate_append_of_ne_nil (by simp [head]) (List.cons_ne_nil _ _),
      Select.intercalate_line]
    simp only [String.append_assoc]
    rfl

/-- Names that are given as fields, or for the GROUP BY clause, stand in one place of the statement,
behind their keyword and in front of a rest that depends on them no more than the place does. A
reader to whom any one character marks the backquotes inside identifiers finds them again, with
nothing left over of their list and the whole rest left in the statement, if and only if no name
holds a backquote or that character. -/
theorem names_read_back_iff (mark : Char) :
    (∀ names, names ≠ [] →
      (readIdentifiers mark (identifierList names).toList = some (names, []) ↔
        ∀ name ∈ names, FitsIdentifier mark name)) ∧
      (∀ q : Query, (∀ names, names ≠ [] → (q.only names).projection = identifierList names) ∧
        (q.sql.isOk = true → ∃ after, ∀ names, names ≠ [] →
          (q.only names).sql =
              .ok ("SELECT " ++ (if q.distinct then "DISTINCT " else "") ++
                identifierList names ++ after) ∧
            ReadBackIfFitting mark names after)) ∧
      ∀ a : Aggregate, a.sql.isOk = true → ∃ before after, ∀ names b, names ≠ [] →
        a.groupBy names = .ok b →
        b.sql = .ok (before ++ "\nGROUP BY " ++ identifierList names ++ after) ∧
          ReadBackIfFitting mark names after := by
  refine ⟨fun names hne => ?_, fun q => ⟨fun names hne => q.projection_only hne, fun h => ?_⟩,
    fun a h => ?_⟩
  · have hnothing : EndsIdentifiers [] := ⟨by decide, by decide⟩
    have hread := @Text.readIdentifiers_iff mark names hne [] hnothing
    rwa [List.append_nil] at hread
  · obtain ⟨after, hafter, hsql⟩ := Query.exists_behind_fields h
    exact ⟨after, fun names hne => ⟨hsql names hne, readBackIfFitting hne hafter⟩⟩
  · obtain ⟨before, after, hafter, hsql⟩ := Aggregate.exists_around_groupNames h
    exact ⟨before, after, fun names b hne hb => ⟨hsql names b hne hb, readBackIfFitting hne hafter⟩⟩

/-- Names with a comma and a blank, a backslash, and a keyword, read with backquotes that are
doubled inside names. -/
theorem names_read_back_iff_commas :
    let names := ["a, b", "c\\d", "DISTINCT"]
    let q := (Query.all .visit).withDistinct
    let a := q.grouped names ⟨[("n", "count()")]⟩
    (names ≠ [] ∧ q.sql.isOk = true ∧ a.sql.isOk = true ∧ a.groupBy names = .ok a) ∧
      (∀ name ∈ names, FitsIdentifier Text.backquote name) ∧
      readIdentifiers Text.backquote (identifierList names).toList = some (names, []) ∧
      (∃ after, (q.only names).sql = .ok ("SELECT DISTINCT " ++ identifierList names ++ after) ∧
        readIdentifiers Text.backquote (identifierList names ++ after).toList =
          some (names, after.toList)) ∧
      ∃ before after, a.sql = .ok (before ++ "\nGROUP BY " ++ identifierList names ++ after) ∧
        readIdentifiers Text.backquote (identifierList names ++ after).toList =
          some (names, after.toList) := by
  intro names q a
  have hne : names ≠ [] := List.cons_ne_nil _ _
  have hfits : ∀ name ∈ names, FitsIdentifier Text.backquote name := by decide
  obtain ⟨hlist, hquery, haggregate⟩ := names_read_back_iff Text.backquote
  obtain ⟨afterFields, hfields⟩ := (hquery q).2 rfl
  obtain ⟨before, afterGroup, hgroup⟩ := haggregate a rfl
  obtain ⟨hfieldsText, hfieldsRead⟩ := hfields names hne
  obtain ⟨hgroupText, hgroupRead⟩ := hgroup names a hne rfl
  exact ⟨⟨hne, rfl, rfl, rfl⟩, hfits, (hlist names hne).mpr hfits,
    ⟨afterFields, hfieldsText, hfieldsRead.mpr hfits⟩, before, afterGroup, hgroupText,
    hgroupRead.mpr hfits⟩

/-- A name that is written like two of them: the statements are the same, so that no reader whatever
tells the lists apart, and a name with a backquote adds to the statement. -/
theorem names_forged :
    let q := Query.all .person
    let a := q.grouped ["a", "b", "a`, `b"] ⟨[("n", "count()")]⟩
    let added := "first_name` FROM `secret"
    (q.only ["a`, `b"]).sql = .ok "SELECT `a`, `b`\nFROM `person`" ∧
    (q.only ["a`, `b"]).sql = (q.only ["a", "b"]).sql ∧
      (q.only [added]).sql = .ok "SELECT `first_name` FROM `secret`\nFROM `person`" ∧
      (a.groupBy ["a`, `b"] >>= Aggregate.sql) =
        .ok "SELECT a, b, a`, `b, count() AS n\nFROM `person`\nGROUP BY `a`, `b`" ∧
      (a.groupBy ["a`, `b"] >>= Aggregate.sql) = (a.groupBy ["a", "b"] >>= Aggregate.sql) ∧
      ¬ ∃ read : String → List String,
        ∀ names, names ≠ [] → read (identifierList names) = names := by
  intro q a added
  refine ⟨rfl, rfl, rfl, rfl, rfl, ?_⟩
  rintro ⟨read, hread⟩
  have hsame : identifierList ["a`, `b"] = identifierList ["a", "b"] := by decide
  have hone := hread ["a`, `b"] (by decide)
  have htwo := hread ["a", "b"] (by decide)
  rw [hsame, htwo] at hone
  exact absurd hone (by decide)

end SelectBuilder
