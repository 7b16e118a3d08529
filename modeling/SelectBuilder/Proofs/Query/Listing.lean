import SelectBuilder.Proofs.Query.Pages

/-! The pages of queries and of aggregations without a window. They list the rows of the source,
each once and in order, as long as nothing adds a line to the text by which the rows are counted. -/
namespace SelectBuilder

open MemorySource (Log ofRows)
open Text (OneLine)

variable {α Row : Type} {rows : List Row} {decode : Row → Except String α} {objects : List α}

/-- What pages come to: all rows, page after page, or the error of a statement that does not
render. -/
def PagesHold (sql : Except QueryError String) (paginate : Int64 → Run Log (Page α)) (size : UInt64)
    (objects : List α) :
    Prop :=
  match sql with
  | .ok _ => ∃ pages, Paged paginate size objects pages
  | .error _ => ∀ number, ∃ e, Gives (paginate number) (.error e)

/-- A full count and a fetch inside a window make pages that hold all rows. -/
theorem pagesHold_paginate {sql : Except QueryError String} {count : Run Log UInt64}
    {fetch : Limits → Run Log (List α)} {size : UInt64} (hsize : size ≠ 0)
    (hobjects : objects.length < 2 ^ 63)
    (hcount : sql.isOk = true → Gives count (.ok (UInt64.ofNat objects.length)))
    (hfetch : sql.isOk = true → ∀ limits, Gives (fetch limits) (.ok (limits.inside objects)))
    (herror : sql.isOk = false → ∃ e, Gives count (.error e)) :
    PagesHold sql (DataSource.paginate count fetch · size) size objects := by
  cases sql with
  | error e => exact fun number => exists_gives_paginate_error (herror rfl) fetch number size
  | ok text =>
    have htotal : (UInt64.ofNat objects.length).toNat = objects.length :=
      UInt64.toNat_ofNat_of_lt' (Nat.lt_trans hobjects (by decide))
    have hpaginates :
        Paginates (DataSource.paginate count fetch · size) objects
          (UInt64.ofNat objects.length) size :=
      ⟨fun number => gives_paginate (hcount rfl) (hfetch rfl) number size, hsize,
        hobjects, htotal.le⟩
    exact ⟨_, hpaginates.paged htotal⟩

/-- The pages of queries and of aggregations that have no window hold the rows of the source, if
nothing adds a line to a text by which they are counted. A query that keeps repetitions is not
counted by its text. -/
theorem pagesHold_of_keepsLines (hrows : rows.length < 2 ^ 63)
    (hdecode : decodeRows decode rows = .ok objects) {size : UInt64} (hsize : size ≠ 0) :
    (∀ q : Query, (q.distinct = true → q.KeepsLines) → q.limits = none →
      PagesHold q.sql (q.paginate (ofRows rows) decode · size) size objects) ∧
    ∀ a : Aggregate, a.KeepsLines → a.base.limits = none →
      PagesHold a.sql (a.paginate (ofRows rows) decode · size) size objects := by
  have hobjects : objects.length < 2 ^ 63 := MemorySource.length_eq_of_decodeRows hdecode ▸ hrows
  have hrows64 : rows.length < 2 ^ 64 := Nat.lt_trans hrows (by decide)
  constructor
  · intro q hq hlimits
    refine pagesHold_paginate hsize hobjects (fun hsql => ?_) (Query.gives_fetch_withLimits hdecode)
      (Query.exists_gives_count_error rows)
    have hcount :=
      Query.gives_count hdecode hrows64 (fun _ hdistinct => (hq hdistinct).lined _) hsql
    rwa [hlimits] at hcount
  · intro a ha hlimits
    refine pagesHold_paginate hsize hobjects (fun hsql => ?_)
      (Aggregate.gives_fetch_withLimits hdecode)
      (Aggregate.exists_gives_count_error rows)
    have hcount := Aggregate.gives_count hdecode hrows64 (fun _ => ha.lined _) hsql
    rwa [hlimits] at hcount

/-- A value that looks like a window, in a query for distinct rows and in an aggregation of it. -/
theorem pagesHold_of_keepsLines_forged :
    let forged := Condition.ofKey .builtin "first_name" (.value (.string "x\nLIMIT 0, 1"))
    let q := ((Query.all .person).filter (.leaf forged)).withDistinct
    let a : Aggregate := ⟨q, ["last_name"], ⟨[("n", "count()")]⟩, ["n"], false⟩
    q.KeepsLines ∧ a.KeepsLines ∧ q.limits = none ∧ decodeRows Except.ok [1, 2, 3] = .ok [1, 2, 3] ∧
      q.sql = .ok "SELECT DISTINCT *\nFROM `person`\nWHERE first_name = 'x\\nLIMIT 0, 1'" ∧
      PagesHold q.sql (q.paginate (ofRows [1, 2, 3]) Except.ok · 2) 2 [1, 2, 3] ∧
      PagesHold a.sql (a.paginate (ofRows [1, 2, 3]) Except.ok · 2) 2 [1, 2, 3] := by
  intro forged q a
  have hforged : forged.KeepsLine := by
    have hoperator : Registry.builtin.resolve? "eq" = some forged.operator := rfl
    exact Condition.Inline.keepsLine ⟨.builtin hoperator, .inl rfl, by decide⟩
  have hfilters : ∀ c ∈ q.filters.allLeaves, c.KeepsLine := by
    have hleaves : q.filters.allLeaves = [forged] := rfl
    rw [hleaves]
    exact fun c hc => List.mem_singleton.mp hc ▸ hforged
  have hq : q.KeepsLines :=
    { Query.keepsLines_all (show OneLine Model.person.table by decide) with filters := hfilters }
  have ha : a.KeepsLines := ⟨hq, by decide, by decide, by decide, by decide⟩
  have hdecode : decodeRows Except.ok [1, 2, 3] = .ok [1, 2, 3] := rfl
  have hsize : (2 : UInt64) ≠ 0 := by decide
  have hpages := pagesHold_of_keepsLines (by decide) hdecode hsize
  exact ⟨hq, ha, rfl, hdecode, rfl, hpages.1 q (fun _ => hq) rfl, hpages.2 a ha rfl⟩

theorem not_pagesHold_of_page {sql : Except QueryError String} {paginate : Int64 → Run Log (Page α)}
    {size : UInt64} {page : Page α} (hsql : sql.isOk = true) (hpage : Gives (paginate 1) (.ok page))
    (htotal : page.pagesTotal = 1) (hrows : page.objects ≠ objects) :
    ¬ PagesHold sql paginate size objects := by
  obtain ⟨text, rfl⟩ := Outcome.isOk_iff.mp hsql
  rintro ⟨pages, hpaged⟩
  obtain ⟨first, hfirst, hlength⟩ := hpaged.total
  obtain rfl := Except.ok.inj (hfirst.unique hpage)
  rw [htotal] at hlength
  obtain ⟨only, rfl⟩ := List.length_eq_one_iff.mp hlength.symm
  have honly := Except.ok.inj ((hpaged.gives 0 Nat.zero_lt_one).unique hpage)
  refine hrows (Eq.trans ?_ hpaged.rows)
  rw [List.flatMap_singleton, ← honly]
  rfl

/-- The line of an expression, or of an operator, is taken for the window: one row is counted, and
two of three are on the only page. -/
theorem pages_lose_rows :
    let a : Aggregate := ⟨Query.all .person, [], ⟨[("n", "count()\nLIMIT 0, 1")]⟩, [], false⟩
    let cut : Condition :=
      ⟨"first_name", "cut", .comparison "\nLIMIT 0, 1 =" none, .value (.string "x")⟩
    let q := ((Query.all .person).filter (.leaf cut)).withDistinct
    (a.Reachable ∧ a.base.KeepsLines ∧ a.base.limits = none ∧ a.calculated.names = ["n"] ∧
      Gives (a.paginate (ofRows [1, 2, 3]) Except.ok 1 2) (.ok ⟨[1, 2], 1, 1, 1, 2⟩) ∧
      ¬ PagesHold a.sql (a.paginate (ofRows [1, 2, 3]) Except.ok · 2) 2 [1, 2, 3]) ∧
    q.limits = none ∧ cut.operand.kind = .value ∧ OneLine cut.field ∧
      Gives (q.paginate (ofRows [1, 2, 3]) Except.ok 1 2) (.ok ⟨[1, 2], 1, 1, 1, 2⟩) ∧
      ¬ PagesHold q.sql (q.paginate (ofRows [1, 2, 3]) Except.ok · 2) 2 [1, 2, 3] := by
  intro a cut q
  have hdecode : decodeRows Except.ok [1, 2, 3] = .ok [1, 2, 3] := rfl
  have hpage : pageOf [1, 2, 3] 1 2 1 = .ok ⟨[1, 2], 1, 1, 1, 2⟩ := rfl
  have hcount : ∀ {text : String},
      MemorySource.NamesWindow (DataSource.countStatement text) (some ⟨0, 1⟩) →
      Gives (Run.of (.ok text) >>= (ofRows [1, 2, 3]).countRows) (.ok 1) := fun h =>
    (gives_of _).bind (MemorySource.gives_countRows (by decide) h)
  have hexpression : MemorySource.NamesWindow
      (DataSource.countStatement "SELECT count()\nLIMIT 0, 1 AS n\nFROM `person`")
      (some ⟨0, 1⟩) := by rfl
  have hoperator : MemorySource.NamesWindow
      (DataSource.countStatement
        "SELECT DISTINCT *\nFROM `person`\nWHERE first_name \nLIMIT 0, 1 = 'x'")
      (some ⟨0, 1⟩) := by rfl
  have ha : Gives (a.paginate (ofRows [1, 2, 3]) Except.ok 1 2) (.ok ⟨[1, 2], 1, 1, 1, 2⟩) := by
    rw [← hpage]
    exact gives_paginate (hcount hexpression) (Aggregate.gives_fetch_withLimits hdecode rfl) 1 2
  have hq : Gives (q.paginate (ofRows [1, 2, 3]) Except.ok 1 2) (.ok ⟨[1, 2], 1, 1, 1, 2⟩) := by
    rw [← hpage]
    exact gives_paginate (hcount hoperator) (Query.gives_fetch_withLimits hdecode rfl) 1 2
  have hstart : (Query.all .person).aggregate [] [("n", "count()\nLIMIT 0, 1")] = .ok a := rfl
  have hbase : a.base.KeepsLines := Query.keepsLines_all (by decide)
  exact ⟨⟨.start hstart, hbase, rfl, rfl, ha, not_pagesHold_of_page rfl ha rfl (by decide)⟩, rfl,
    rfl, by decide, hq, not_pagesHold_of_page rfl hq rfl (by decide)⟩

end SelectBuilder
