import SelectBuilder.Proofs.Query.Memory

/-! Pages of the rows of a source. A page is a window of the rows that starts where the page before
it ends, and their number is that of the windows that start inside the counted rows: so the pages of
a full count hold each row once. -/
namespace SelectBuilder

open MemorySource (Log)

variable {α : Type}

namespace PageWindow

variable {count size : UInt64}

theorem toNat_pos_of_ne_zero {n : UInt64} (h : n ≠ 0) : 0 < n.toNat :=
  Nat.pos_of_ne_zero fun hn => h (UInt64.toNat_inj.mp hn)

/-- A page for a rest does not overflow: a size that leaves one is at least two. -/
theorem toNat_div_add_one (hpos : 0 < size.toNat) (hrest : count.toNat % size.toNat ≠ 0) :
    (count / size + 1).toNat = count.toNat / size.toNat + 1 := by
  have htwo : 2 ≤ size.toNat := by
    by_contra hlt
    have hone : size.toNat = 1 := by omega
    exact hrest (by rw [hone, Nat.mod_one])
  have hhalf : count.toNat / size.toNat ≤ count.toNat / 2 := Nat.div_le_div_left htwo (by decide)
  have hlt := count.toNat_lt
  rw [UInt64.toNat_add, UInt64.toNat_div]
  exact Nat.mod_eq_of_lt (show count.toNat / size.toNat + 1 < 2 ^ 64 by omega)

/-- A page is one of the total if and only if it starts inside the counted rows. -/
theorem lt_pages_iff (hsize : size ≠ 0) (k : Nat) :
    k < (pages count size).toNat ↔ k * size.toNat < count.toNat := by
  have hpos := toNat_pos_of_ne_zero hsize
  have hmod : count % size = 0 ↔ count.toNat % size.toNat = 0 := by
    rw [← UInt64.toNat_inj, UInt64.toNat_mod]
    rfl
  unfold pages
  split
  next h =>
    rw [UInt64.toNat_div]
    exact Nat.lt_div_iff_mul_lt_of_dvd (Nat.ne_of_gt hpos) (Nat.dvd_of_mod_eq_zero (hmod.mp h))
  next h =>
    have hrest : count.toNat % size.toNat ≠ 0 := hmod.not.mp h
    rw [toNat_div_add_one hpos hrest, Nat.lt_succ_iff, Nat.le_div_iff_mul_le hpos]
    refine ⟨fun hle => Nat.lt_of_le_of_ne hle fun heq => hrest ?_, Nat.le_of_lt⟩
    rw [← heq, Nat.mul_mod_left]

theorem pages_le (hsize : size ≠ 0) : (pages count size).toNat ≤ count.toNat := by
  by_contra hlt
  have hstart := (lt_pages_iff hsize count.toNat).mp (Nat.lt_of_not_le hlt)
  exact Nat.not_lt.mpr (Nat.le_mul_of_pos_right _ (toNat_pos_of_ne_zero hsize)) hstart

theorem toNat_product (a b : UInt64) :
    (product a b).toNat = min (a.toNat * b.toNat) (2 ^ 64 - 1) := by
  rw [product]
  exact UInt64.toNat_ofNat_of_lt' (show min (a.toNat * b.toNat) (2 ^ 64 - 1) < 2 ^ 64 by omega)

theorem toNat_max (a b : UInt64) : (max a b).toNat = max a.toNat b.toNat := by
  change (if a ≤ b then b else a).toNat = _
  split
  next h => exact (Nat.max_eq_right (UInt64.le_iff_toNat_le.mp h)).symm
  next h =>
    exact (Nat.max_eq_left (Nat.le_of_not_le fun hle => h (UInt64.le_iff_toNat_le.mpr hle))).symm

def ofNumber (n count size : UInt64) : PageWindow :=
  ⟨n, pages count size, product (n - 1) size⟩

/-- A page starts behind the pages before it, or where numbers stop. -/
theorem toNat_offset_ofNumber (count size : UInt64) {n : UInt64} {k : Nat} (hn : n.toNat = k + 1) :
    (ofNumber n count size).offset.toNat = min (k * size.toNat) (2 ^ 64 - 1) := by
  have hone : (1 : UInt64) ≤ n := by
    rw [UInt64.le_iff_toNat_le, hn]
    exact Nat.succ_le_succ (Nat.zero_le k)
  have hbefore : (n - 1).toNat = k := by
    rw [UInt64.toNat_sub_of_le _ _ hone, hn]
    rfl
  rw [ofNumber, toNat_product, hbefore]

theorem resolve_of_pos (hsize : size ≠ 0) (count : UInt64) {number : Int64}
    (hnumber : 0 < number.toInt) :
    resolve number size count = .ok (ofNumber number.toUInt64 count size) := by
  have hlast : number ≠ lastPage := by
    rintro rfl
    exact absurd hnumber (by decide)
  have hfirst : ¬ number < 1 := by
    rw [Int64.lt_iff_toInt_lt, Int64.toInt_one]
    omega
  unfold resolve
  rw [if_neg hsize, if_neg hlast, if_neg hfirst]
  rfl

theorem resolve_lastPage (hsize : size ≠ 0) (count : UInt64) :
    resolve lastPage size count = .ok (ofNumber (max (pages count size) 1) count size) := by
  unfold resolve
  rw [if_neg hsize, if_pos rfl]
  rfl

theorem toNat_lastNumber (count size : UInt64) :
    (max (pages count size) 1).toNat = max (pages count size).toNat 1 :=
  toNat_max _ 1

end PageWindow

/-- The page that a result has under a number, if it has one. -/
def pageOf (objects : List α) (total size : UInt64) (number : Int64) : Except QueryError (Page α) :=
  (PageWindow.resolve number size total).map fun window =>
    window.page (Limits.inside ⟨window.offset, size⟩ objects) total size

def pageAt (objects : List α) (total size : UInt64) (k : Nat) : Page α where
  objects := (objects.drop (k * size.toNat)).take size.toNat
  numberOfObjects := total
  pagesTotal := PageWindow.pages total size
  number := UInt64.ofNat (k + 1)
  pageSize := size

section Numbers

variable {objects : List α} {total size : UInt64}

/-- The place of a page stops at the largest number, behind all rows. -/
theorem inside_ofNumber (hobjects : objects.length < 2 ^ 64) {n : UInt64} {k : Nat}
    (hn : n.toNat = k + 1) :
    Limits.inside ⟨(PageWindow.ofNumber n total size).offset, size⟩ objects =
      (objects.drop (k * size.toNat)).take size.toNat := by
  rw [Limits.inside, PageWindow.toNat_offset_ofNumber total size hn]
  rcases Nat.lt_or_ge (k * size.toNat) (2 ^ 64) with hlt | hge
  · rw [Nat.min_eq_left (by omega)]
  · have hfar : objects.length ≤ min (k * size.toNat) (2 ^ 64 - 1) := by omega
    rw [List.drop_eq_nil_of_le hfar, List.drop_eq_nil_of_le (by omega)]

theorem exists_ofNat_of_nonneg {i : Int64} (h : 0 ≤ i.toInt) : ∃ k < 2 ^ 63, i = Int64.ofNat k := by
  have hlt := i.toInt_lt
  refine ⟨i.toInt.toNat, by omega, ?_⟩
  rw [← Int64.toInt_inj, Int64.toInt_ofNat_of_lt (by omega)]
  omega

theorem page_ofNumber (hobjects : objects.length < 2 ^ 64) {n : UInt64} {k : Nat}
    (hn : n.toNat = k + 1) :
    (PageWindow.ofNumber n total size).page
      (Limits.inside ⟨(PageWindow.ofNumber n total size).offset, size⟩ objects) total size =
      pageAt objects total size k := by
  have hnumber : n = UInt64.ofNat (k + 1) := by rw [← hn, UInt64.ofNat_toNat]
  rw [inside_ofNumber hobjects hn, PageWindow.page, pageAt, ← hnumber]
  rfl

theorem pageOf_number (hsize : size ≠ 0) (hobjects : objects.length < 2 ^ 64) {k : Nat}
    (hk : k + 1 < 2 ^ 63) :
    pageOf objects total size (Int64.ofNat (k + 1)) = .ok (pageAt objects total size k) := by
  have hnumber : (Int64.ofNat (k + 1)).toInt = k + 1 := Int64.toInt_ofNat_of_lt hk
  have hvalue : (Int64.ofNat (k + 1)).toUInt64.toNat = k + 1 := by
    rw [Int64.toUInt64_ofNat']
    exact UInt64.toNat_ofNat_of_lt' (show k + 1 < 2 ^ 64 by omega)
  rw [pageOf, PageWindow.resolve_of_pos hsize total (by omega)]
  exact congrArg Except.ok (page_ofNumber hobjects hvalue)

theorem pageOf_lastPage (hsize : size ≠ 0) (hobjects : objects.length < 2 ^ 64) :
    pageOf objects total size PageWindow.lastPage =
      .ok (pageAt objects total size (max (PageWindow.pages total size).toNat 1 - 1)) := by
  have hmax := PageWindow.toNat_lastNumber total size
  have hvalue : (max (PageWindow.pages total size) 1).toNat =
      max (PageWindow.pages total size).toNat 1 - 1 + 1 := by
    omega
  rw [pageOf, PageWindow.resolve_lastPage hsize total]
  exact congrArg Except.ok (page_ofNumber hobjects hvalue)

end Numbers

def firstPages (objects : List α) (total size : UInt64) (n : Nat) : List (Page α) :=
  (List.range n).map (pageAt objects total size)

section Lists

variable {objects : List α} {total size : UInt64}

/-- Pages in a row hold the rows in front of the page behind them. -/
theorem flatMap_firstPages (objects : List α) (total size : UInt64) (n : Nat) :
    (firstPages objects total size n).flatMap Page.objects = objects.take (n * size.toNat) := by
  induction n with
  | zero =>
    rw [Nat.zero_mul]
    rfl
  | succ n ih =>
    rw [firstPages, List.range_succ, List.map_append, List.flatMap_append, ← firstPages, ih,
      Nat.succ_mul, List.take_add]
    exact congrArg _ (List.append_nil _)

@[simp]
theorem length_firstPages (objects : List α) (total size : UInt64) (n : Nat) :
    (firstPages objects total size n).length = n := by
  rw [firstPages, List.length_map, List.length_range]

theorem getElem_firstPages {n k : Nat} (h : k < (firstPages objects total size n).length) :
    (firstPages objects total size n)[k] = pageAt objects total size k := by
  simp only [firstPages, List.getElem_map, List.getElem_range]

/-- The pages from page one to the total that page one names. -/
structure IsPages (paginate : Int64 → Run Log (Page α)) (pages : List (Page α)) : Prop where
  total : ∃ page, Gives (paginate 1) (.ok page) ∧ page.pagesTotal.toNat = pages.length
  gives : ∀ k (h : k < pages.length), Gives (paginate (Int64.ofNat (k + 1))) (.ok pages[k])

variable {paginate : Int64 → Run Log (Page α)} {pages : List (Page α)}

theorem IsPages.unique {others : List (Page α)} (h : IsPages paginate pages)
    (ho : IsPages paginate others) :
    pages = others := by
  obtain ⟨page, hpage, hlength⟩ := h.total
  obtain ⟨other, hother, holength⟩ := ho.total
  obtain rfl := Except.ok.inj (hpage.unique hother)
  refine List.ext_getElem (hlength.symm.trans holength) fun k hk hok => ?_
  exact Except.ok.inj ((h.gives k hk).unique (ho.gives k hok))

/-- What is paginated is a list of rows, of which a number is counted. -/
structure Paginates (paginate : Int64 → Run Log (Page α)) (objects : List α)
    (total size : UInt64) : Prop where
  gives : ∀ number, Gives (paginate number) (pageOf objects total size number)
  size_ne_zero : size ≠ 0
  objects_lt : objects.length < 2 ^ 63
  total_le : total.toNat ≤ objects.length

namespace Paginates

variable (h : Paginates paginate objects total size)
include h

theorem gives_number {k : Nat} (hk : k + 1 < 2 ^ 63) :
    Gives (paginate (Int64.ofNat (k + 1))) (.ok (pageAt objects total size k)) := by
  have hobjects : objects.length < 2 ^ 64 := Nat.lt_trans h.objects_lt (by decide)
  rw [← pageOf_number h.size_ne_zero hobjects hk]
  exact h.gives _

theorem pages_lt : (PageWindow.pages total size).toNat < 2 ^ 63 :=
  Nat.lt_of_le_of_lt (Nat.le_trans (PageWindow.pages_le h.size_ne_zero) h.total_le) h.objects_lt

theorem isPages :
    IsPages paginate (firstPages objects total size (PageWindow.pages total size).toNat) where
  total := ⟨pageAt objects total size 0, h.gives_number (by decide), (length_firstPages ..).symm⟩
  gives k hk := by
    have hpages := h.pages_lt
    rw [length_firstPages] at hk
    rw [getElem_firstPages]
    exact h.gives_number (by omega)

/-- A page that can be asked for is there, whether there are rows for it or not. -/
theorem exists_gives {number : Int64} (hnumber : 0 < number.toInt) :
    ∃ k : Nat, number.toInt = k + 1 ∧
      Gives (paginate number) (.ok (pageAt objects total size k)) := by
  obtain ⟨n, hn, rfl⟩ := exists_ofNat_of_nonneg (Int.le_of_lt hnumber)
  rw [Int64.toInt_ofNat_of_lt hn] at hnumber ⊢
  obtain ⟨k, rfl⟩ : ∃ k, n = k + 1 := Nat.exists_eq_succ_of_ne_zero (by omega)
  exact ⟨k, by omega, h.gives_number hn⟩

end Paginates

/-- Pages that hold every row once, and what the pages around them are. -/
structure Paged (paginate : Int64 → Run Log (Page α)) (size : UInt64) (objects : List α)
    (pages : List (Page α)) : Prop
    extends IsPages paginate pages where
  rows : pages.flatMap Page.objects = objects
  full : ∀ k (h : k + 1 < pages.length), pages[k].objects.length = size.toNat
  last : ∀ page, pages.getLast? = some page → 1 ≤ page.objects.length ∧
    page.objects.length ≤ size.toNat
  lastPage : ∃ page, Gives (paginate PageWindow.lastPage) (.ok page) ∧
    Gives (paginate (Int64.ofNat (max pages.length 1))) (.ok page)
  numbered : ∀ number : Int64, 1 ≤ number → ∃ page, Gives (paginate number) (.ok page) ∧
    (page.number.toNat : Int) = number.toInt ∧ page.pagesTotal.toNat = pages.length ∧
    (page.isLast = true ↔ (pages.length : Int) ≤ number.toInt)
  beyond : ∀ number : Int64, (pages.length : Int) < number.toInt →
    ∃ page, Gives (paginate number) (.ok page) ∧ page.objects = []

theorem length_pageAt (objects : List α) (total size : UInt64) (k : Nat) :
    (pageAt objects total size k).objects.length =
      min size.toNat (objects.length - k * size.toNat) := by
  rw [pageAt, List.length_take, List.length_drop]

theorem Paginates.paged (h : Paginates paginate objects total size)
    (htotal : total.toNat = objects.length) :
    Paged paginate size objects
      (firstPages objects total size (PageWindow.pages total size).toNat) where
  toIsPages := h.isPages
  rows := by
    have hall :=
      (PageWindow.lt_pages_iff h.size_ne_zero (PageWindow.pages total size).toNat).not.mp
        (Nat.lt_irrefl _)
    rw [flatMap_firstPages]
    exact List.take_of_length_le (by omega)
  full k hk := by
    rw [length_firstPages, PageWindow.lt_pages_iff h.size_ne_zero, htotal, Nat.succ_mul] at hk
    rw [getElem_firstPages, length_pageAt]
    omega
  last page hpage := by
    have hpos := PageWindow.toNat_pos_of_ne_zero h.size_ne_zero
    cases hn : (PageWindow.pages total size).toNat with
    | zero =>
      rw [hn] at hpage
      cases hpage
    | succ n =>
      have hstart : n * size.toNat < total.toNat :=
        (PageWindow.lt_pages_iff h.size_ne_zero n).mp (by omega)
      rw [hn, firstPages, List.range_succ, List.map_append, List.map_singleton,
        List.getLast?_concat] at hpage
      obtain rfl := Option.some.inj hpage
      rw [length_pageAt]
      omega
  lastPage := by
    have hobjects : objects.length < 2 ^ 64 := Nat.lt_trans h.objects_lt (by decide)
    have hpages := h.pages_lt
    rw [length_firstPages]
    obtain ⟨k, hk⟩ : ∃ k, max (PageWindow.pages total size).toNat 1 = k + 1 :=
      Nat.exists_eq_succ_of_ne_zero (by omega)
    have hlast := h.gives PageWindow.lastPage
    rw [pageOf_lastPage h.size_ne_zero hobjects, hk, Nat.add_sub_cancel] at hlast
    rw [hk]
    exact ⟨_, hlast, h.gives_number (by omega)⟩
  numbered number hnumber := by
    obtain ⟨k, hk, hpage⟩ := h.exists_gives (Int64.le_iff_toInt_le.mp hnumber)
    have hlt := number.toInt_lt
    have hvalue : (UInt64.ofNat (k + 1)).toNat = k + 1 :=
      UInt64.toNat_ofNat_of_lt' (show k + 1 < 2 ^ 64 by omega)
    refine ⟨_, hpage, ?_, ?_, ?_⟩
    · rw [pageAt, hvalue, hk]
      rfl
    · rw [length_firstPages]
      rfl
    · have hlast : (pageAt objects total size k).isLast =
          decide (PageWindow.pages total size ≤ UInt64.ofNat (k + 1)) := rfl
      rw [length_firstPages, hk, hlast, decide_eq_true_iff, UInt64.le_iff_toNat_le, hvalue]
      omega
  beyond number hnumber := by
    rw [length_firstPages] at hnumber
    have hpos : 0 < number.toInt := by omega
    obtain ⟨k, hk, hpage⟩ := h.exists_gives hpos
    refine ⟨_, hpage, ?_⟩
    have hstart : k < (PageWindow.pages total size).toNat ↔ k * size.toNat < total.toNat :=
      PageWindow.lt_pages_iff h.size_ne_zero k
    rw [← List.length_eq_zero_iff, length_pageAt]
    omega

end Lists

section Computations

variable {count : Run Log UInt64} {fetch : Limits → Run Log (List α)} {objects : List α}
  {total : UInt64}

theorem gives_paginate (hcount : Gives count (.ok total))
    (hfetch : ∀ limits, Gives (fetch limits) (.ok (limits.inside objects)))
    (number : Int64) (size : UInt64) :
    Gives (DataSource.paginate count fetch number size) (pageOf objects total size number) := by
  unfold DataSource.paginate
  split
  next hsize =>
    have herror : pageOf objects total size number = .error (.invalidArgument .emptyPage) := by
      rw [pageOf, PageWindow.resolve, if_pos hsize]
      rfl
    rw [herror]
    exact (gives_throw _).bind_error
  next hsize =>
    refine hcount.bind ?_
    cases hwindow : PageWindow.resolve number size total with
    | error e =>
      rw [pageOf, hwindow]
      exact (gives_of _).bind_error
    | ok window =>
      rw [pageOf, hwindow]
      exact (gives_of _).bind ((hfetch _).bind (gives_pure _))

theorem exists_gives_paginate_error (hcount : ∃ e, Gives count (.error e))
    (fetch : Limits → Run Log (List α)) (number : Int64) (size : UInt64) :
    ∃ e, Gives (DataSource.paginate count fetch number size) (.error e) := by
  obtain ⟨e, he⟩ := hcount
  unfold DataSource.paginate
  split
  next => exact ⟨_, (gives_throw _).bind_error⟩
  next => exact ⟨e, he.bind_error⟩

end Computations

end SelectBuilder
