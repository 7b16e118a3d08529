import SelectBuilder.Proofs.Query.Counting
import SelectBuilder.Proofs.Query.Window
import SelectBuilder.Proofs.Text.Trimming

/-! What a source over rows gives. It answers a statement by what the window of the statement leaves
of its rows, so that the answers of queries and of aggregations come down to windows of one list. -/
namespace SelectBuilder

variable {α β Row : Type}

def Limits.inside (limits : Limits) (xs : List α) : List α :=
  (xs.drop limits.offset.toNat).take limits.count.toNat

def inside (limits : Option Limits) (xs : List α) : List α :=
  limits.elim xs (·.inside xs)

theorem Limits.length_inside (limits : Limits) (xs : List α) :
    (limits.inside xs).length = min limits.count.toNat (xs.length - limits.offset.toNat) := by
  rw [inside, List.length_take, List.length_drop]

theorem length_inside_le (limits : Option Limits) (xs : List α) :
    (inside limits xs).length ≤ xs.length := by
  cases limits with
  | none => exact Nat.le_refl _
  | some limits =>
    have hlength := limits.length_inside xs
    change (limits.inside xs).length ≤ xs.length
    omega

section Computations

open MemorySource (Log)

/-- What a computation gives, whatever a source was asked before. -/
def Gives (x : Run Log α) (result : Except QueryError α) : Prop :=
  ∀ log, (x.run.run log).1 = result

variable {x : Run Log α} {f : α → Run Log β} {a : α} {r : Except QueryError β} {e : QueryError}

theorem Gives.unique {r s : Except QueryError α} (hr : Gives x r) (hs : Gives x s) : r = s :=
  (hr []).symm.trans (hs [])

theorem gives_of (result : Except QueryError α) : Gives (Run.of result) result :=
  fun _ => rfl

theorem gives_throw (e : QueryError) : Gives (throw e : Run Log α) (.error e) :=
  fun _ => rfl

theorem gives_pure (a : α) : Gives (pure a) (.ok a) :=
  fun _ => rfl

theorem Gives.exists_run {result : Except QueryError α} (hx : Gives x result) (log : List String) :
    ∃ after, x.run.run log = (result, after) :=
  ⟨(x.run.run log).2, Prod.ext (hx log) rfl⟩

theorem Gives.bind (hx : Gives x (.ok a)) (hf : Gives (f a) r) : Gives (x >>= f) r := by
  intro log
  obtain ⟨after, hrun⟩ := hx.exists_run log
  rw [ExceptT.run_bind, StateT.run_bind, hrun]
  exact hf after

theorem Gives.bind_error (hx : Gives x (.error e)) : Gives (x >>= f) (.error e) := by
  intro log
  obtain ⟨after, hrun⟩ := hx.exists_run log
  rw [ExceptT.run_bind, StateT.run_bind, hrun]
  rfl

end Computations

namespace MemorySource

def ofRows (rows : List Row) : DataSource Log Row :=
  dataSource { rows }

variable {rows : List Row} {decode : Row → Except String α} {objects : List α} {sql : String}
  {limits : Option Limits}

/-- The rows that a statement leaves of a source. -/
def windowOf (rows : List Row) (sql : String) : List Row :=
  window { rows } sql

theorem windowOf_eq_inside (rows : List Row) (h : NamesWindow sql limits) :
    windowOf rows sql = inside limits rows := by
  rw [windowOf, window, h]
  cases limits <;> rfl

theorem windowOf_countStatement (rows : List Row) (sql : String) :
    windowOf rows (DataSource.countStatement sql) = windowOf rows sql := by
  rw [windowOf, window, limits?_countStatement]
  rfl

theorem length_windowOf_le (rows : List Row) (sql : String) :
    (windowOf rows sql).length ≤ rows.length := by
  rw [windowOf, window]
  split
  · exact ((List.take_sublist _ _).trans (List.drop_sublist _ _)).length_le
  · exact Nat.le_refl _

theorem gives_select (rows : List Row) (sql : String) :
    Gives ((ofRows rows).select sql) (.ok (windowOf rows sql)) :=
  fun _ => rfl

theorem gives_raw (rows : List Row) (sql : String) :
    Gives ((ofRows rows).raw sql) (.ok (some (toString (windowOf rows sql).length))) :=
  fun _ => rfl

theorem gives_count (rows : List Row) (table conditions : String) :
    Gives ((ofRows rows).count table conditions) (.ok (UInt64.ofNat rows.length)) :=
  fun _ => rfl

/-- Rows that are read one by one are read inside a window as well. -/
theorem decodeRows_inside (h : decodeRows decode rows = .ok objects) (limits : Option Limits) :
    decodeRows decode (inside limits rows) = .ok (inside limits objects) := by
  cases limits with
  | none => exact h
  | some limits =>
    have hread := Outcome.mapM_eq_ok.mp h
    exact Outcome.mapM_eq_ok.mpr (List.forall₂_take _ (List.forall₂_drop _ hread))

theorem length_eq_of_decodeRows (h : decodeRows decode rows = .ok objects) :
    rows.length = objects.length :=
  (Outcome.mapM_eq_ok.mp h).length_eq

theorem gives_decodeRows (rows : List Row) (decode : Row → Except String α) (sql : String) :
    Gives ((ofRows rows).fetch decode sql) (decodeRows decode (windowOf rows sql)) :=
  (gives_select rows sql).bind (gives_of _)

theorem gives_fetch (hdecode : decodeRows decode rows = .ok objects) (h : NamesWindow sql limits) :
    Gives ((ofRows rows).fetch decode sql) (.ok (inside limits objects)) := by
  rw [← decodeRows_inside hdecode, ← windowOf_eq_inside rows h]
  exact gives_decodeRows rows decode sql

theorem readCount_toString {n : Nat} (h : n < 2 ^ 64) :
    DataSource.readCount (some (toString n)) = .ok (UInt64.ofNat n) := by
  have hblank : ∀ c ∈ Nat.toDigits 10 n, Text.isBlank c = false := fun c hc =>
    Text.isBlank_of_isDigit (Nat.isDigit_of_mem_toDigits (by decide) (by decide) hc)
  have htrim : Text.trim (toString n) = toString n :=
    Text.trim_eq_self (by rwa [Nat.toString_eq_ofList_toDigits, String.toList_ofList])
  rw [DataSource.readCount, htrim, Numeral.uint64_toString h]

theorem gives_length_windowOf (hrows : rows.length < 2 ^ 64) (sql : String) :
    Gives ((ofRows rows).countRows sql) (.ok (UInt64.ofNat (windowOf rows sql).length)) := by
  refine (gives_raw rows _).bind ?_
  rw [windowOf_countStatement,
    readCount_toString (Nat.lt_of_le_of_lt (length_windowOf_le rows sql) hrows)]
  exact gives_of _

theorem gives_countRows (hrows : rows.length < 2 ^ 64)
    (h : NamesWindow (DataSource.countStatement sql) limits) :
    Gives ((ofRows rows).countRows sql) (.ok (UInt64.ofNat (inside limits rows).length)) := by
  rw [← windowOf_eq_inside rows h, windowOf_countStatement]
  exact gives_length_windowOf hrows sql

end MemorySource

section Statements

open MemorySource (Log ofRows)

variable {rows : List Row} {decode : Row → Except String α} {objects : List α}

theorem exists_gives_error {result : Except QueryError α} (h : result.isOk = false)
    (f : α → Run Log β) :
    ∃ e, Gives (Run.of result >>= f) (.error e) := by
  obtain ⟨e, rfl⟩ := Outcome.isOk_eq_false_iff.mp h
  exact ⟨e, (gives_of _).bind_error⟩

section

variable {fields : FieldSet} {s : Select}

theorem Select.gives_fetch (hdecode : decodeRows decode rows = .ok objects)
    (hs : s.limits = none → s.Lined fields) (hsql : (s.sql fields).isOk = true) :
    Gives (Run.of (s.sql fields) >>= (ofRows rows).fetch decode)
      (.ok (inside s.limits objects)) := by
  obtain ⟨text, htext⟩ := Outcome.isOk_iff.mp hsql
  rw [htext]
  exact (gives_of _).bind (MemorySource.gives_fetch hdecode (namesWindow_sql hs htext).1)

theorem Select.gives_countRows (hdecode : decodeRows decode rows = .ok objects)
    (hrows : rows.length < 2 ^ 64) (hs : s.limits = none → s.Lined fields)
    (hsql : (s.sql fields).isOk = true) :
    Gives (Run.of (s.sql fields) >>= (ofRows rows).countRows)
      (.ok (UInt64.ofNat (inside s.limits objects).length)) := by
  obtain ⟨text, htext⟩ := Outcome.isOk_iff.mp hsql
  have hlength :=
    MemorySource.length_eq_of_decodeRows (MemorySource.decodeRows_inside hdecode s.limits)
  rw [htext, ← hlength]
  exact (gives_of _).bind (MemorySource.gives_countRows hrows (namesWindow_sql hs htext).2)

end

namespace Query

variable {q : Query}

/-- A window does not decide whether a statement renders. -/
theorem isOk_sql_withLimits (q : Query) (limits : Limits) :
    (q.withLimits limits).sql.isOk = q.sql.isOk :=
  (Select.isOk_sql _).trans (Select.isOk_sql q.select).symm

theorem gives_fetch (hdecode : decodeRows decode rows = .ok objects)
    (hq : q.limits = none → q.select.Lined q.model.fields) (hsql : q.sql.isOk = true) :
    Gives (q.fetch (ofRows rows) decode) (.ok (inside q.limits objects)) :=
  Select.gives_fetch (s := q.select) hdecode hq hsql

theorem gives_fetch_of_limits (hdecode : decodeRows decode rows = .ok objects) {limits : Limits}
    (hlimits : q.limits = some limits) (hsql : q.sql.isOk = true) :
    Gives (q.fetch (ofRows rows) decode) (.ok (limits.inside objects)) := by
  have hgives := gives_fetch hdecode (fun hnone => nomatch hlimits.symm.trans hnone) hsql
  rwa [hlimits] at hgives

theorem gives_fetch_withLimits (hdecode : decodeRows decode rows = .ok objects)
    (hsql : q.sql.isOk = true) (limits : Limits) :
    Gives ((q.withLimits limits).fetch (ofRows rows) decode) (.ok (limits.inside objects)) :=
  gives_fetch_of_limits hdecode rfl ((isOk_sql_withLimits q limits).trans hsql)

/-- The statement decides what is fetched, by the window that it names. -/
theorem gives_fetch_of_sql (hdecode : decodeRows decode rows = .ok objects) {text : String}
    (hsql : q.sql = .ok text) {limits : Option Limits}
    (hwindow : MemorySource.NamesWindow text limits) :
    Gives (q.fetch (ofRows rows) decode) (.ok (inside limits objects)) := by
  rw [fetch, hsql]
  exact (gives_of _).bind (MemorySource.gives_fetch hdecode hwindow)

/-- Counting by conditions counts all rows. -/
theorem gives_count_of_conditions (hdistinct : q.distinct = false) (hlimits : q.limits = none)
    {text : String} (htext : conditionsText q.model.fields q.joined = .ok text) (rows : List Row) :
    Gives (q.count (ofRows rows)) (.ok (UInt64.ofNat rows.length)) := by
  have hask : Gives (Run.of (conditionsText q.model.fields q.joined)) (.ok text) :=
    htext ▸ gives_of _
  unfold count
  rw [if_neg (by simp [hdistinct, hlimits])]
  exact hask.bind (MemorySource.gives_count rows q.model.table text)

theorem gives_count (hdecode : decodeRows decode rows = .ok objects) (hrows : rows.length < 2 ^ 64)
    (hq : q.limits = none → q.distinct = true → q.select.Lined q.model.fields)
    (hsql : q.sql.isOk = true) :
    Gives (q.count (ofRows rows)) (.ok (UInt64.ofNat (inside q.limits objects).length)) := by
  cases h : q.distinct || q.limits.isSome with
  | true =>
    unfold count
    rw [if_pos h]
    refine Select.gives_countRows (s := q.select) hdecode hrows (fun hlimits => hq hlimits ?_) hsql
    have hlimits : q.limits = none := hlimits
    simpa [hlimits] using h
  | false =>
    obtain ⟨hdistinct, hlimits⟩ : q.distinct = false ∧ q.limits = none := by simpa using h
    obtain ⟨text, htext⟩ := Outcome.isOk_iff.mp ((isOk_joined q).trans hsql)
    have hlength : rows.length = (inside none objects).length :=
      MemorySource.length_eq_of_decodeRows hdecode
    rw [hlimits, ← hlength]
    exact gives_count_of_conditions hdistinct hlimits htext rows

theorem gives_count_of_limits (hdecode : decodeRows decode rows = .ok objects)
    (hrows : rows.length < 2 ^ 64) {limits : Limits} (hlimits : q.limits = some limits)
    (hsql : q.sql.isOk = true) :
    Gives (q.count (ofRows rows)) (.ok (UInt64.ofNat (limits.inside objects).length)) := by
  have hgives := gives_count hdecode hrows (fun hnone => nomatch hlimits.symm.trans hnone) hsql
  rwa [hlimits] at hgives

theorem exists_gives_count_error (rows : List Row) (hsql : q.sql.isOk = false) :
    ∃ e, Gives (q.count (ofRows rows)) (.error e) := by
  unfold count
  split
  · exact exists_gives_error hsql _
  · exact exists_gives_error ((isOk_joined q).trans hsql) _

end Query

namespace Aggregate

variable {a : Aggregate}

theorem isOk_sql_withLimits (a : Aggregate) (limits : Limits) :
    (a.withBase (a.base.withLimits limits)).sql.isOk = a.sql.isOk :=
  (Select.isOk_sql _).trans (Select.isOk_sql a.select).symm

theorem gives_fetch (hdecode : decodeRows decode rows = .ok objects)
    (ha : a.base.limits = none → a.select.Lined a.base.model.fields) (hsql : a.sql.isOk = true) :
    Gives (a.fetch (ofRows rows) decode) (.ok (inside a.base.limits objects)) :=
  Select.gives_fetch (s := a.select) hdecode ha hsql

theorem gives_fetch_of_limits (hdecode : decodeRows decode rows = .ok objects) {limits : Limits}
    (hlimits : a.base.limits = some limits) (hsql : a.sql.isOk = true) :
    Gives (a.fetch (ofRows rows) decode) (.ok (limits.inside objects)) := by
  have hgives := gives_fetch hdecode (fun hnone => nomatch hlimits.symm.trans hnone) hsql
  rwa [hlimits] at hgives

theorem gives_fetch_withLimits (hdecode : decodeRows decode rows = .ok objects)
    (hsql : a.sql.isOk = true) (limits : Limits) :
    Gives ((a.withBase (a.base.withLimits limits)).fetch (ofRows rows) decode)
      (.ok (limits.inside objects)) :=
  gives_fetch_of_limits hdecode rfl ((isOk_sql_withLimits a limits).trans hsql)

theorem gives_count (hdecode : decodeRows decode rows = .ok objects) (hrows : rows.length < 2 ^ 64)
    (ha : a.base.limits = none → a.select.Lined a.base.model.fields) (hsql : a.sql.isOk = true) :
    Gives (a.count (ofRows rows)) (.ok (UInt64.ofNat (inside a.base.limits objects).length)) :=
  Select.gives_countRows (s := a.select) hdecode hrows ha hsql

theorem gives_count_of_limits (hdecode : decodeRows decode rows = .ok objects)
    (hrows : rows.length < 2 ^ 64) {limits : Limits} (hlimits : a.base.limits = some limits)
    (hsql : a.sql.isOk = true) :
    Gives (a.count (ofRows rows)) (.ok (UInt64.ofNat (limits.inside objects).length)) := by
  have hgives := gives_count hdecode hrows (fun hnone => nomatch hlimits.symm.trans hnone) hsql
  rwa [hlimits] at hgives

theorem exists_gives_count_error (rows : List Row) (hsql : a.sql.isOk = false) :
    ∃ e, Gives (a.count (ofRows rows)) (.error e) :=
  exists_gives_error hsql _

end Aggregate

end Statements

end SelectBuilder
