import SelectBuilder.Proofs.Query.Memory

/-! The number of rows that is counted, against the rows that are fetched. A statement that is
counted leaves the rows that it leaves when it is fetched, whatever it is made of, since both look
for the last window in it. A query that is counted by its conditions counts all rows, so that its
statement must not show a window that it does not have. -/
namespace SelectBuilder

open MemorySource (Log ofRows windowOf)

variable {α Row : Type}

/-- Whenever rows are fetched, their number is counted. -/
def CountsFetched (fetch : Run Log (List α)) (count : Run Log UInt64) : Prop :=
  ∀ fetched, Gives fetch (.ok fetched) → ∃ n, Gives count (.ok n) ∧ n.toNat = fetched.length

def FindsFetched (fetch : Run Log (List α)) (hasRows : Run Log Bool) : Prop :=
  ∀ fetched, Gives fetch (.ok fetched) → Gives hasRows (.ok !fetched.isEmpty)

/-- The window of a statement is read from its text, and from the text that counts its rows. -/
def ReadsBack (text : String) (limits : Limits) : Prop :=
  MemorySource.limits? text = some (limits.offset.toNat, limits.count.toNat) ∧
    MemorySource.limits? (DataSource.countStatement text) =
      some (limits.offset.toNat, limits.count.toNat)

section Statements

variable {rows : List Row} {decode : Row → Except String α} {fetched : List α}
  {sql : Except QueryError String}

theorem exists_text_of_gives_fetch
    (h : Gives (Run.of sql >>= (ofRows rows).fetch decode) (.ok fetched)) :
    ∃ text, sql = .ok text ∧ decodeRows decode (windowOf rows text) = .ok fetched := by
  cases sql with
  | error e =>
    have herror : Gives (Run.of (.error e) >>= (ofRows rows).fetch decode) (.error e) :=
      (gives_of _).bind_error
    cases herror.unique h
  | ok text =>
    have hread :
        Gives (Run.of (.ok text) >>= (ofRows rows).fetch decode)
          (decodeRows decode (windowOf rows text)) :=
      (gives_of _).bind (MemorySource.gives_decodeRows rows decode text)
    exact ⟨text, rfl, hread.unique h⟩

theorem toNat_length_windowOf (hrows : rows.length < 2 ^ 64) {text : String}
    (h : decodeRows decode (windowOf rows text) = .ok fetched) :
    (UInt64.ofNat (windowOf rows text).length).toNat = fetched.length := by
  have hle := MemorySource.length_windowOf_le rows text
  rw [← MemorySource.length_eq_of_decodeRows h]
  exact UInt64.toNat_ofNat_of_lt' (Nat.lt_of_le_of_lt hle hrows)

/-- A statement counts what it fetches, with no condition on what it is made of. -/
theorem countsFetched_statement (hrows : rows.length < 2 ^ 64) (decode : Row → Except String α)
    (sql : Except QueryError String) :
    CountsFetched (Run.of sql >>= (ofRows rows).fetch decode)
      (Run.of sql >>= (ofRows rows).countRows) := by
  intro fetched hfetched
  obtain ⟨text, rfl, hread⟩ := exists_text_of_gives_fetch hfetched
  have hcount := MemorySource.gives_length_windowOf hrows text
  exact ⟨_, (gives_of _).bind hcount, toNat_length_windowOf hrows hread⟩

end Statements

namespace Query

variable {rows : List Row} {decode : Row → Except String α} {q : Query}

/-- A statement whose parts keep to their lines, and that has no window, leaves all rows. -/
theorem windowOf_of_keepsLines (hq : q.KeepsLines) (hlimits : q.limits = none) {text : String}
    (h : q.sql = .ok text) :
    windowOf rows text = rows := by
  have hwindow := (Select.namesWindow_sql (s := q.select) (fun _ => hq.lined _) h).1
  rw [MemorySource.windowOf_eq_inside rows hwindow]
  exact congrArg (inside · rows) hlimits

theorem countsFetched (hrows : rows.length < 2 ^ 64) (decode : Row → Except String α)
    (hq : q.distinct = true ∨ q.limits.isSome = true ∨ q.KeepsLines) :
    CountsFetched (q.fetch (ofRows rows) decode) (q.count (ofRows rows)) := by
  cases h : q.distinct || q.limits.isSome with
  | true =>
    unfold count
    rw [if_pos h]
    exact countsFetched_statement hrows decode q.sql
  | false =>
    obtain ⟨hdistinct, hlimits⟩ : q.distinct = false ∧ q.limits = none := by simpa using h
    have hlines : q.KeepsLines := by simpa [hdistinct, hlimits] using hq
    intro fetched hfetched
    obtain ⟨text, htext, hread⟩ := exists_text_of_gives_fetch hfetched
    have hsql : q.sql.isOk = true := Outcome.isOk_iff.mpr ⟨text, htext⟩
    obtain ⟨conditions, hconditions⟩ := Outcome.isOk_iff.mp ((isOk_joined q).trans hsql)
    have hlength := toNat_length_windowOf hrows hread
    rw [windowOf_of_keepsLines hlines hlimits htext] at hlength
    exact ⟨_, gives_count_of_conditions hdistinct hlimits hconditions rows, hlength⟩

theorem findsFetched {source : DataSource Log Row}
    (h : CountsFetched (q.fetch source decode) (q.count source)) :
    FindsFetched (q.fetch source decode) (q.hasRows source) := by
  intro fetched hfetched
  obtain ⟨n, hcount, hlength⟩ := h fetched hfetched
  have hfound : decide (0 < n) = !fetched.isEmpty := by
    have hzero : (0 : UInt64).toNat = 0 := rfl
    rw [Bool.eq_iff_iff, decide_eq_true_iff, UInt64.lt_iff_toNat_lt, hlength, hzero,
      List.length_pos_iff]
    simp
  rw [← hfound]
  exact hcount.bind (gives_pure _)

end Query

variable {rows : List Row}

/-- Over a source of rows, a query that asks for distinct rows or for a window counts what it
fetches, and so does every aggregation, whatever their conditions are; any other query does if its
names and conditions keep to their lines, as all operators do that are there from the start. A
window that is asked for is the one that the source reads. -/
theorem fetched_rows_counted (hrows : rows.length < 2 ^ 64) (decode : Row → Except String α) :
    (∀ q : Query, q.distinct = true ∨ q.limits.isSome = true ∨ q.KeepsLines →
      CountsFetched (q.fetch (ofRows rows) decode) (q.count (ofRows rows)) ∧
        FindsFetched (q.fetch (ofRows rows) decode) (q.hasRows (ofRows rows))) ∧
      (∀ a : Aggregate, CountsFetched (a.fetch (ofRows rows) decode) (a.count (ofRows rows))) ∧
      (∀ (q : Query) (limits : Limits) (text : String), q.limits = some limits → q.sql = .ok text →
        ReadsBack text limits) ∧
      ∀ (a : Aggregate) (limits : Limits) (text : String), a.base.limits = some limits →
        a.sql = .ok text → ReadsBack text limits := by
  refine ⟨fun q hq => ?_, fun a => ?_, fun q limits text hlimits h => ?_,
    fun a limits text hlimits h => ?_⟩
  · have hcounts := Query.countsFetched hrows decode hq
    exact ⟨hcounts, Query.findsFetched hcounts⟩
  · exact countsFetched_statement hrows decode a.sql
  · exact Select.limits?_sql (s := q.select) hlimits h
  · exact Select.limits?_sql (s := a.select) hlimits h

/-- A query for distinct rows takes the window of its subquery for its own, and counts it; a value
that looks like a window is none; and the largest numbers of a window read back. -/
theorem fetched_rows_counted_subquery :
    let rows := [10, 11, 12, 13]
    let inner := (Query.all .visit).withLimits ⟨1, 2⟩
    let member := Condition.ofKey .builtin "passport__in" inner.operand
    let outer := ((Query.all .person).filter (.leaf member)).withDistinct
    let forged := Condition.ofKey .builtin "first_name" (.value (.string "x\nLIMIT 0, 1"))
    let plain := (Query.all .person).filter (.leaf forged)
    let last : Limits := ⟨18446744073709551615, 18446744073709551615⟩
    outer.sql =
      .ok "SELECT DISTINCT *\nFROM `person`\nWHERE passport IN (SELECT *\nFROM `visit`\nLIMIT 1, 2)" ∧
      Gives (outer.fetch (ofRows rows) Except.ok) (.ok [11, 12]) ∧
      Gives (outer.count (ofRows rows)) (.ok 2) ∧
      plain.KeepsLines ∧ Gives (plain.hasRows (ofRows rows)) (.ok true) ∧
      ((Query.all .person).withLimits last).limits = some last ∧
      ReadsBack
        "SELECT *\nFROM `person`\nLIMIT 18446744073709551615, 18446744073709551615" last := by
  intro rows inner member outer forged plain last
  have hdecode : decodeRows Except.ok rows = .ok rows := rfl
  have hrows : rows.length < 2 ^ 64 := by decide
  obtain ⟨hqueries, -, hwindows, -⟩ := fetched_rows_counted hrows Except.ok
  have hsql : outer.sql =
      .ok "SELECT DISTINCT *\nFROM `person`\nWHERE passport IN (SELECT *\nFROM `visit`\nLIMIT 1, 2)" :=
    rfl
  have hwindow : MemorySource.NamesWindow
      "SELECT DISTINCT *\nFROM `person`\nWHERE passport IN (SELECT *\nFROM `visit`\nLIMIT 1, 2)"
        (some ⟨1, 2⟩) := by
    rfl
  have houter : Gives (outer.fetch (ofRows rows) Except.ok) (.ok [11, 12]) :=
    Query.gives_fetch_of_sql hdecode hsql hwindow
  obtain ⟨n, hcount, hlength⟩ := (hqueries outer (.inl rfl)).1 _ houter
  obtain rfl : n = 2 := UInt64.toNat_inj.mp hlength
  have hforged : forged.KeepsLine := by
    have hoperator : Registry.builtin.resolve? "eq" = some forged.operator := rfl
    exact Condition.Inline.keepsLine ⟨.builtin hoperator, .inl rfl, by decide⟩
  have hplain : plain.KeepsLines := by
    refine { Query.keepsLines_all
      (show Text.OneLine Model.person.table by decide) with filters := ?_ }
    have hleaves : plain.filters.allLeaves = [forged] := rfl
    rw [hleaves]
    exact fun c hc => List.mem_singleton.mp hc ▸ hforged
  have hall : Gives (plain.fetch (ofRows rows) Except.ok) (.ok rows) :=
    Query.gives_fetch hdecode (fun _ => hplain.lined _) rfl
  have hlast : ((Query.all .person).withLimits last).sql =
      .ok "SELECT *\nFROM `person`\nLIMIT 18446744073709551615, 18446744073709551615" :=
    Outcome.toOption_eq_some.mp (by decide +kernel)
  exact ⟨hsql, houter, hcount, hplain, (hqueries plain (.inr (.inr hplain))).2 _ hall, rfl,
    hwindows ((Query.all .person).withLimits last) last _ rfl hlast⟩

/-- An operator with a line of its own hides rows: the line is taken for a window when the query is
fetched, and is not looked at when it is counted. Nothing else of the query breaks a line. -/
theorem operator_line_hides_rows :
    let rows := [1, 2, 3]
    let cut : Condition :=
      ⟨"first_name", "cut", .comparison "\nLIMIT 0, 1 =" none, .value (.string "x")⟩
    let q := (Query.all .person).filter (.leaf cut)
    ((Query.all .person).KeepsLines ∧ cut.operand.kind = .value ∧ Text.OneLine cut.field ∧
      q.distinct = false ∧ q.limits = none ∧
      q.sql = .ok "SELECT *\nFROM `person`\nWHERE first_name \nLIMIT 0, 1 = 'x'" ∧
      Gives (q.fetch (ofRows rows) Except.ok) (.ok [1]) ∧ Gives (q.count (ofRows rows)) (.ok 3)) ∧
      ¬ CountsFetched (q.fetch (ofRows rows) Except.ok) (q.count (ofRows rows)) := by
  intro rows cut q
  have hdecode : decodeRows Except.ok rows = .ok rows := rfl
  have hsql : q.sql = .ok "SELECT *\nFROM `person`\nWHERE first_name \nLIMIT 0, 1 = 'x'" := rfl
  have hwindow : MemorySource.NamesWindow
      "SELECT *\nFROM `person`\nWHERE first_name \nLIMIT 0, 1 = 'x'" (some ⟨0, 1⟩) := by rfl
  have hconditions : conditionsText q.model.fields q.joined =
      .ok "first_name \nLIMIT 0, 1 = 'x'" := rfl
  have hfetch : Gives (q.fetch (ofRows rows) Except.ok) (.ok [1]) :=
    Query.gives_fetch_of_sql hdecode hsql hwindow
  have hcount : Gives (q.count (ofRows rows)) (.ok 3) :=
    Query.gives_count_of_conditions rfl rfl hconditions rows
  have hall : (Query.all .person).KeepsLines :=
    Query.keepsLines_all (show Text.OneLine Model.person.table by decide)
  refine ⟨⟨hall, rfl, by decide, rfl, rfl, hsql, hfetch, hcount⟩, fun hcounts => ?_⟩
  obtain ⟨n, hn, hlength⟩ := hcounts [1] hfetch
  obtain rfl := Except.ok.inj (hn.unique hcount)
  exact absurd hlength (by decide)

end SelectBuilder
