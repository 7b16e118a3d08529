import SelectBuilder.Proofs.Query.Pages

/-! One row, and pages, of a query that has a window. Both are fetched inside a window of their own,
which replaces the one that is there, while a page still counts the rows of the latter. -/
namespace SelectBuilder

open MemorySource (Log ofRows)

variable {α Row : Type} {objects fetched : List α}

/-- The window starts at the first row and is wide enough for so many. -/
def Limits.Covers (limits : Limits) (n : Nat) : Prop :=
  limits.offset = 0 ∧ n ≤ limits.count.toNat

/-- A window leaves everything if and only if there is nothing, or all of it is covered. -/
theorem Limits.inside_eq_self_iff (limits : Limits) (xs : List α) :
    limits.inside xs = xs ↔ xs = [] ∨ limits.Covers xs.length := by
  have hlength := limits.length_inside xs
  have hoffset : limits.offset = 0 ↔ limits.offset.toNat = 0 := UInt64.toNat_inj.symm
  rw [Covers, hoffset, ← List.length_eq_zero_iff]
  constructor
  · intro h
    rw [h] at hlength
    omega
  · rintro (hnil | ⟨hzero, hwide⟩)
    · rw [List.eq_nil_of_length_eq_zero hnil, inside, List.drop_nil, List.take_nil]
    · rw [inside, hzero, List.drop_zero, List.take_of_length_le hwide]

def elementAt (objects : List α) (index : Int64) : Except QueryError α :=
  match objects[index.toInt.toNat]? with
  | some object => .ok object
  | none => .error (.doesNotExist index.toUInt64)

theorem elementAt_eq_iff {xs ys : List α} {index : Int64} :
    elementAt xs index = elementAt ys index ↔ xs[index.toInt.toNat]? = ys[index.toInt.toNat]? := by
  unfold elementAt
  cases xs[index.toInt.toNat]? <;> cases ys[index.toInt.toNat]? <;> simp

/-- An index counts from the first of what is fetched. -/
def GetsFrom (get : Int64 → Run Log α) (fetched : List α) : Prop :=
  ∀ index : Int64, 0 ≤ index → Gives (get index) (elementAt fetched index)

/-- Pages of any size put together are what is fetched. -/
def PagesMake (paginate : Int64 → UInt64 → Run Log (Page α)) (fetched : List α) : Prop :=
  ∀ size : UInt64, size ≠ 0 → ∃ pages, IsPages (paginate · size) pages ∧
    pages.flatMap Page.objects = fetched

/-- If indexes count from the first object, they do not count from the first of other lists. -/
theorem getsFrom_iff {get : Int64 → Run Log α} (hget : GetsFrom get objects)
    (hobjects : objects.length < 2 ^ 63) (hfetched : fetched.length < 2 ^ 63) :
    GetsFrom get fetched ↔ fetched = objects := by
  refine ⟨fun h => List.ext_getElem? fun k => ?_, fun h => h ▸ hget⟩
  rcases Nat.lt_or_ge k (2 ^ 63) with hk | hk
  · have hindex : (Int64.ofNat k).toInt = k := Int64.toInt_ofNat_of_lt hk
    have hnonneg : 0 ≤ Int64.ofNat k := by
      have hzero : (0 : Int64).toInt = 0 := rfl
      rw [Int64.le_iff_toInt_le, hindex, hzero]
      omega
    have helement := elementAt_eq_iff.mp ((h _ hnonneg).unique (hget _ hnonneg))
    rwa [hindex, Int.toNat_natCast] at helement
  · rw [List.getElem?_eq_none (by omega), List.getElem?_eq_none (by omega)]

/-- Pages that count what is fetched and take it from all objects make it only if it is nothing, or
everything. -/
theorem pagesMake_iff {paginate : Int64 → UInt64 → Run Log (Page α)} {total : UInt64}
    (htotal : total.toNat = fetched.length)
    (hpaginates : ∀ size : UInt64, size ≠ 0 → Paginates (paginate · size) objects total size) :
    PagesMake paginate fetched ↔ fetched = [] ∨ fetched = objects := by
  constructor
  · intro h
    let size := UInt64.ofNat (2 ^ 64 - 1)
    have hsize : size ≠ 0 := by decide
    have hwide : size.toNat = 2 ^ 64 - 1 := by decide
    have hpages := hpaginates size hsize
    obtain ⟨pages, hisPages, hmake⟩ := h size hsize
    rw [hisPages.unique hpages.isPages, flatMap_firstPages] at hmake
    refine or_iff_not_imp_left.mpr fun hne => ?_
    have hfirst : 0 < (PageWindow.pages total size).toNat := by
      rw [PageWindow.lt_pages_iff hsize, Nat.zero_mul, htotal]
      exact List.length_pos_iff.mpr hne
    have hobjects := hpages.objects_lt
    have hall : objects.length ≤ (PageWindow.pages total size).toNat * size.toNat :=
      Nat.le_trans (by omega) (Nat.le_mul_of_pos_left size.toNat hfirst)
    rw [← hmake, List.take_of_length_le hall]
  · intro h size hsize
    have hpages := hpaginates size hsize
    have hend :=
      (PageWindow.lt_pages_iff hsize (PageWindow.pages total size).toNat).not.mp (Nat.lt_irrefl _)
    refine ⟨_, hpages.isPages, ?_⟩
    rw [flatMap_firstPages]
    rcases h with rfl | rfl
    · have hnone : (PageWindow.pages total size).toNat ≤ total.toNat := PageWindow.pages_le hsize
      rw [htotal, List.length_nil] at hnone
      rw [Nat.eq_zero_of_le_zero hnone, Nat.zero_mul]
      rfl
    · exact List.take_of_length_le (by omega)

section Results

variable {rows : List Row} {decode : Row → Except String α}

theorem Query.gives_get {q : Query} (hdecode : decodeRows decode rows = .ok objects)
    (hsql : q.sql.isOk = true) :
    GetsFrom (q.get (ofRows rows) decode) objects := by
  intro index hindex
  have hnonneg : 0 ≤ index.toInt := Int64.le_iff_toInt_le.mp hindex
  have hfirst : ¬ index < 0 := by
    have hzero : (0 : Int64).toInt = 0 := rfl
    rw [Int64.lt_iff_toInt_lt, hzero]
    omega
  have hplace : index.toUInt64.toNat = index.toInt.toNat := Int64.toNat_toUInt64_of_le hindex
  have hinside : (⟨index.toUInt64, 1⟩ : Limits).inside objects =
      objects[index.toInt.toNat]?.toList := by
    have hone : (1 : UInt64).toNat = 1 := rfl
    rw [Limits.inside, hplace, hone, List.take_one, List.head?_drop]
  have hfetch := gives_fetch_withLimits hdecode hsql ⟨index.toUInt64, 1⟩
  rw [hinside] at hfetch
  unfold get
  split
  next h => exact absurd h hfirst
  next h =>
    refine hfetch.bind ?_
    unfold elementAt
    cases objects[index.toInt.toNat]? with
    | none => exact gives_throw _
    | some object => exact gives_pure _

/-- What is said of everything that a fetch gives is said of one list, if the statement renders. -/
theorem forall_gives_iff {sql : Except QueryError String} {fetch : Run Log (List α)}
    {P : List α → Prop} {Q : Prop} (hfetch : sql.isOk = true → Gives fetch (.ok fetched))
    (herror : sql.isOk = false → ∃ e, Gives fetch (.error e))
    (hP : sql.isOk = true → (P fetched ↔ Q)) :
    (∀ xs, Gives fetch (.ok xs) → P xs) ↔ (sql.isOk = true → Q) := by
  constructor
  · exact fun h hsql => (hP hsql).mp (h fetched (hfetch hsql))
  · intro h xs hxs
    cases hsql : sql.isOk with
    | true =>
      obtain rfl := Except.ok.inj ((hfetch hsql).unique hxs)
      exact (hP hsql).mpr (h hsql)
    | false =>
      obtain ⟨e, he⟩ := herror hsql
      cases he.unique hxs

theorem pagesMake_inside_iff {count : Run Log UInt64} {fetch : Limits → Run Log (List α)}
    {limits : Limits} (hobjects : objects.length < 2 ^ 63)
    (hcount : Gives count (.ok (UInt64.ofNat (limits.inside objects).length)))
    (hfetch : ∀ window, Gives (fetch window) (.ok (window.inside objects))) :
    PagesMake (DataSource.paginate count fetch) (limits.inside objects) ↔
      limits.inside objects = [] ∨ limits.Covers objects.length := by
  have hle : (limits.inside objects).length ≤ objects.length :=
    length_inside_le (some limits) objects
  have htotal : (UInt64.ofNat (limits.inside objects).length).toNat =
      (limits.inside objects).length :=
    UInt64.toNat_ofNat_of_lt' (show (limits.inside objects).length < 2 ^ 64 by omega)
  have hpaginates : ∀ size : UInt64, size ≠ 0 →
      Paginates (DataSource.paginate count fetch · size) objects
      (UInt64.ofNat (limits.inside objects).length) size := fun size hsize =>
    ⟨fun number => gives_paginate hcount hfetch number size, hsize, hobjects, htotal.trans_le hle⟩
  rw [pagesMake_iff htotal hpaginates, limits.inside_eq_self_iff]
  refine ⟨?_, Or.imp_right .inr⟩
  rintro (hnone | rfl | hcovers)
  · exact .inl hnone
  · exact .inl (by rw [Limits.inside, List.drop_nil, List.take_nil])
  · exact .inr hcovers

/-- Where one row, and pages, of a query with a window stay inside the window: an index does if the
window leaves everything, and pages do if it leaves everything or nothing. -/
theorem slice_kept_iff (hrows : rows.length < 2 ^ 63)
    (hdecode : decodeRows decode rows = .ok objects) (limits : Limits) :
    (∀ q : Query, q.limits = some limits →
      ((∀ fetched, Gives (q.fetch (ofRows rows) decode) (.ok fetched) →
        GetsFrom (q.get (ofRows rows) decode) fetched) ↔
        (q.sql.isOk = true → objects = [] ∨ limits.Covers objects.length)) ∧
      ((∀ fetched, Gives (q.fetch (ofRows rows) decode) (.ok fetched) →
          PagesMake (q.paginate (ofRows rows) decode) fetched) ↔
        (q.sql.isOk = true → limits.inside objects = [] ∨ limits.Covers objects.length))) ∧
    ∀ a : Aggregate, a.base.limits = some limits →
      ((∀ fetched, Gives (a.fetch (ofRows rows) decode) (.ok fetched) →
          PagesMake (a.paginate (ofRows rows) decode) fetched) ↔
        (a.sql.isOk = true → limits.inside objects = [] ∨ limits.Covers objects.length)) := by
  have hobjects : objects.length < 2 ^ 63 := MemorySource.length_eq_of_decodeRows hdecode ▸ hrows
  have hrows64 : rows.length < 2 ^ 64 := Nat.lt_trans hrows (by decide)
  have hinside : (limits.inside objects).length < 2 ^ 63 :=
    Nat.lt_of_le_of_lt (length_inside_le (some limits) objects) hobjects
  refine ⟨fun q hq => ?_, fun a ha => ?_⟩
  · have hfetch : q.sql.isOk = true →
        Gives (q.fetch (ofRows rows) decode) (.ok (limits.inside objects)) :=
      Query.gives_fetch_of_limits hdecode hq
    have herror : q.sql.isOk = false → ∃ e, Gives (q.fetch (ofRows rows) decode) (.error e) :=
      fun hsql => exists_gives_error hsql _
    refine ⟨forall_gives_iff hfetch herror fun hsql => ?_,
      forall_gives_iff hfetch herror fun hsql => ?_⟩
    · rw [getsFrom_iff (Query.gives_get hdecode hsql) hobjects hinside, limits.inside_eq_self_iff]
    · exact pagesMake_inside_iff hobjects (Query.gives_count_of_limits hdecode hrows64 hq hsql)
        (Query.gives_fetch_withLimits hdecode hsql)
  · refine forall_gives_iff (Aggregate.gives_fetch_of_limits hdecode ha)
      (fun hsql => exists_gives_error hsql _)
      fun hsql => ?_
    exact pagesMake_inside_iff hobjects (Aggregate.gives_count_of_limits hdecode hrows64 ha hsql)
      (Aggregate.gives_fetch_withLimits hdecode hsql)

/-- The window of all rows, and one behind them. -/
theorem slice_kept_iff_covering :
    let q := (Query.all .person).withLimits ⟨0, 5⟩
    let a : Aggregate :=
      ⟨(Query.all .person).withLimits ⟨4, 2⟩, [], ⟨[("n", "count()")]⟩, [], false⟩
    decodeRows Except.ok [1, 2, 3] = .ok [1, 2, 3] ∧ q.limits = some ⟨0, 5⟩ ∧
      a.base.limits = some ⟨4, 2⟩ ∧
      (∀ fetched, Gives (q.fetch (ofRows [1, 2, 3]) Except.ok) (.ok fetched) →
        GetsFrom (q.get (ofRows [1, 2, 3]) Except.ok) fetched) ∧
      (∀ fetched, Gives (q.fetch (ofRows [1, 2, 3]) Except.ok) (.ok fetched) →
        PagesMake (q.paginate (ofRows [1, 2, 3]) Except.ok) fetched) ∧
      ∀ fetched, Gives (a.fetch (ofRows [1, 2, 3]) Except.ok) (.ok fetched) →
        PagesMake (a.paginate (ofRows [1, 2, 3]) Except.ok) fetched := by
  intro q a
  have hdecode : decodeRows Except.ok [1, 2, 3] = .ok [1, 2, 3] := rfl
  have hcovers : (⟨0, 5⟩ : Limits).Covers [1, 2, 3].length := ⟨rfl, by decide⟩
  obtain ⟨hget, hpages⟩ := (slice_kept_iff (by decide) hdecode ⟨0, 5⟩).1 q rfl
  have hbehind := (slice_kept_iff (by decide) hdecode ⟨4, 2⟩).2 a rfl
  exact ⟨hdecode, rfl, rfl, hget.mpr fun _ => .inr hcovers, hpages.mpr fun _ => .inr hcovers,
    hbehind.mpr fun _ => .inl rfl⟩

/-- The third and the fourth of seven rows: the first of them is not the one that index zero gives,
and their pages hold the first two rows. -/
theorem slice_left_behind :
    let rows := [0, 1, 2, 3, 4, 5, 6]
    let q := (Query.all .person).withLimits ⟨2, 2⟩
    let a : Aggregate := ⟨q, [], ⟨[("n", "count()")]⟩, [], false⟩
    (Query.all .person).slice (.included 2) (.excluded 4) = .ok q ∧
      q.aggregate [] [("n", "count()")] = .ok a ∧
      Gives (q.fetch (ofRows rows) Except.ok) (.ok [2, 3]) ∧
      Gives (q.get (ofRows rows) Except.ok 0) (.ok 0) ∧
      Gives (q.paginate (ofRows rows) Except.ok 1 2) (.ok ⟨[0, 1], 2, 1, 1, 2⟩) ∧
      Gives (a.fetch (ofRows rows) Except.ok) (.ok [2, 3]) ∧
      Gives (a.paginate (ofRows rows) Except.ok 1 2) (.ok ⟨[0, 1], 2, 1, 1, 2⟩) := by
  intro rows q a
  have hdecode : decodeRows Except.ok rows = .ok rows := rfl
  have hrows : rows.length < 2 ^ 64 := by decide
  have hget : Gives (q.get (ofRows rows) Except.ok 0) (elementAt rows 0) :=
    Query.gives_get hdecode rfl 0 (by decide)
  have hpage : pageOf rows 2 2 1 = .ok ⟨[0, 1], 2, 1, 1, 2⟩ := rfl
  have hqlimits : q.limits = some ⟨2, 2⟩ := rfl
  have halimits : a.base.limits = some ⟨2, 2⟩ := rfl
  have hqcount := Query.gives_count_of_limits hdecode hrows hqlimits rfl
  have hacount := Aggregate.gives_count_of_limits hdecode hrows halimits rfl
  have hq : Gives (q.paginate (ofRows rows) Except.ok 1 2) (pageOf rows 2 2 1) :=
    gives_paginate hqcount (Query.gives_fetch_withLimits hdecode rfl) 1 2
  have ha : Gives (a.paginate (ofRows rows) Except.ok 1 2) (pageOf rows 2 2 1) :=
    gives_paginate hacount (Aggregate.gives_fetch_withLimits hdecode rfl) 1 2
  rw [hpage] at hq ha
  exact ⟨rfl, rfl, Query.gives_fetch_of_limits hdecode hqlimits rfl, hget, hq,
    Aggregate.gives_fetch_of_limits hdecode halimits rfl, ha⟩

end Results

end SelectBuilder
