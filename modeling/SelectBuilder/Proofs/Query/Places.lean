import SelectBuilder.Proofs.Query.Pages
import SelectBuilder.Proofs.Query.Ranges

/-! The place of every page, in exact numbers. A page starts behind the pages before it, so that
each counted index lies on one page of the total. A number of the total resolves to the window of
its page: this starts inside the count, and no start inside the count is where numbers stop. Behind
the total every window starts behind the count, since the count itself is not greater than the
largest number. -/
namespace SelectBuilder

namespace PageWindow

def IsPage (count size : UInt64) (k : Nat) : Prop :=
  1 ≤ k ∧ k ≤ (pages count size).toNat

def start (size : UInt64) (k : Nat) : Nat :=
  (k - 1) * size.toNat

def OnPage (size : UInt64) (k i : Nat) : Prop :=
  start size k ≤ i ∧ i < start size k + size.toNat

structure IsOf (window : PageWindow) (count size : UInt64) (k : Nat) : Prop where
  number_eq : window.number.toNat = k
  pagesTotal_eq : window.pagesTotal = pages count size
  offset_eq : window.offset.toNat = start size k

variable {count size n : UInt64} {k i : Nat}

section Starts

theorem start_lt_iff (hsize : size ≠ 0) (hk : 1 ≤ k) :
    start size k < count.toNat ↔ IsPage count size k := by
  have hbefore : k - 1 < (pages count size).toNat ↔ (k - 1) * size.toNat < count.toNat :=
    lt_pages_iff hsize (k - 1)
  unfold IsPage start
  omega

/-- A page is found by the number of full pages in front of an index. -/
theorem onPage_iff (hsize : size ≠ 0) (hk : 1 ≤ k) : OnPage size k i ↔ k = i / size.toNat + 1 := by
  have hpos := toNat_pos_of_ne_zero hsize
  have hquotient : i / size.toNat = k - 1 ↔
      (k - 1) * size.toNat ≤ i ∧ i ≤ (k - 1) * size.toNat + size.toNat - 1 := Nat.div_eq_iff hpos
  unfold OnPage start
  omega

theorem existsUnique_onPage (hsize : size ≠ 0) (hi : i < count.toNat) :
    ∃! k, IsPage count size k ∧ OnPage size k i := by
  have hfirst : 1 ≤ i / size.toNat + 1 := Nat.succ_pos _
  have hstart : start size (i / size.toNat + 1) ≤ i := Nat.div_mul_le_self i size.toNat
  have hpage := (start_lt_iff hsize hfirst).mp (Nat.lt_of_le_of_lt hstart hi)
  refine ⟨i / size.toNat + 1, ⟨hpage, (onPage_iff hsize hfirst).mpr rfl⟩, ?_⟩
  intro k hk
  exact (onPage_iff hsize hk.1.1).mp hk.2

/-- The last page starts inside the count, or at its end if nothing is counted. -/
theorem start_lastNumber_le (hsize : size ≠ 0) (count : UInt64) :
    start size (max (pages count size).toNat 1) ≤ count.toNat := by
  rcases Nat.eq_zero_or_pos (pages count size).toNat with hzero | hpos
  · rw [hzero, start, Nat.max_eq_right (Nat.zero_le 1), Nat.sub_self, Nat.zero_mul]
    exact Nat.zero_le _
  · rw [Nat.max_eq_left hpos]
    exact Nat.le_of_lt ((start_lt_iff hsize hpos).mpr ⟨hpos, Nat.le_refl _⟩)

end Starts

section Windows

theorem toNat_offset_eq_min (count size : UInt64) (hn : n.toNat = k) (hk : 1 ≤ k) :
    (ofNumber n count size).offset.toNat = min (start size k) (2 ^ 64 - 1) :=
  toNat_offset_ofNumber count size (by omega)

/-- A start that is not behind the count is not where numbers stop. -/
theorem isOf_ofNumber (hn : n.toNat = k) (hk : 1 ≤ k) (hstart : start size k ≤ count.toNat) :
    (ofNumber n count size).IsOf count size k := by
  have hcount := count.toNat_lt
  have hoffset := toNat_offset_eq_min count size hn hk
  exact ⟨hn, rfl, by omega⟩

/-- Behind the total a page starts behind the count, whether numbers stop before its start or
not. -/
theorem count_le_offset (hsize : size ≠ 0) (hn : n.toNat = k) (hk : (pages count size).toNat < k) :
    count ≤ (ofNumber n count size).offset := by
  have hfirst : 1 ≤ k := Nat.one_le_of_lt hk
  have hpage : ¬ IsPage count size k := fun h => Nat.not_le.mpr hk h.2
  have hstart : count.toNat ≤ start size k :=
    Nat.not_lt.mp ((start_lt_iff hsize hfirst).not.mpr hpage)
  have hcount := count.toNat_lt
  have hoffset := toNat_offset_eq_min count size hn hfirst
  rw [UInt64.le_iff_toNat_le]
  omega

/-- Each counted index lies on exactly one page of the total. A number of the total resolves to the
window of its page, which starts inside the count; the number of the last page to the window of the
page with the greatest number, page one if there is none; and a number behind the total to a window
that starts behind the count and so holds no counted index. -/
theorem resolve_places_pages (hsize : size ≠ 0) (count : UInt64) :
    (∀ i < count.toNat, ∃! k, IsPage count size k ∧ OnPage size k i) ∧
      (∀ (number : Int64) (k : Nat), number.toInt = k → IsPage count size k →
        ∃ window, resolve number size count = .ok window ∧ window.IsOf count size k ∧
          window.offset < count) ∧
      (∃ window, resolve (-1) size count = .ok window ∧
        window.IsOf count size (max (pages count size).toNat 1)) ∧
      ∀ (number : Int64) (k : Nat), number.toInt = k → (pages count size).toNat < k →
        ∃ window, resolve number size count = .ok window ∧ window.number.toNat = k ∧
          window.pagesTotal = pages count size ∧ count ≤ window.offset ∧
          ∀ i < count.toNat, ¬ (⟨window.offset, size⟩ : Limits).HasIndex i := by
  refine ⟨fun i hi => existsUnique_onPage hsize hi, fun number k hnumber hpage => ?_, ?_,
    fun number k hnumber hfar => ?_⟩
  · have hstart := (start_lt_iff hsize hpage.1).mpr hpage
    have hof := isOf_ofNumber (toNat_toUInt64_of_toInt_eq hnumber) hpage.1 (Nat.le_of_lt hstart)
    have hlt : (ofNumber number.toUInt64 count size).offset < count := by
      rw [UInt64.lt_iff_toNat_lt, hof.offset_eq]
      exact hstart
    have hpos := hpage.1
    exact ⟨_, resolve_of_pos hsize count (by omega), hof, hlt⟩
  · exact ⟨_, resolve_lastPage hsize count,
      isOf_ofNumber (toNat_lastNumber count size) (Nat.le_max_right _ 1)
        (start_lastNumber_le hsize count)⟩
  · have hvalue := toNat_toUInt64_of_toInt_eq hnumber
    have hoffset := count_le_offset hsize hvalue hfar
    have hle := UInt64.le_iff_toNat_le.mp hoffset
    exact ⟨_, resolve_of_pos hsize count (by omega), hvalue, rfl, hoffset,
      fun i hi => Limits.not_hasIndex_of_lt (Nat.lt_of_lt_of_le hi hle)⟩

/-- Two pages of half the numbers each. The last index lies on one of them, page two is the last
one, and the exact start of page three is the first number that is none, so that its window starts
at the largest number, where the count ends. -/
theorem resolve_places_pages_saturated :
    (0x8000000000000000 : UInt64) ≠ 0 ∧
      (∃! k, IsPage 0xffffffffffffffff 0x8000000000000000 k ∧
        OnPage 0x8000000000000000 k 0xfffffffffffffffe) ∧
      (IsPage 0xffffffffffffffff 0x8000000000000000 2 ∧
        resolve 2 0x8000000000000000 0xffffffffffffffff = .ok ⟨2, 2, 0x8000000000000000⟩ ∧
        IsOf ⟨2, 2, 0x8000000000000000⟩ 0xffffffffffffffff 0x8000000000000000 2) ∧
      (resolve (-1) 0x8000000000000000 0xffffffffffffffff = .ok ⟨2, 2, 0x8000000000000000⟩ ∧
        IsOf ⟨2, 2, 0x8000000000000000⟩ 0xffffffffffffffff 0x8000000000000000
          (max (pages 0xffffffffffffffff 0x8000000000000000).toNat 1)) ∧
      (pages 0xffffffffffffffff 0x8000000000000000).toNat < 3 ∧
      start 0x8000000000000000 3 = 2 ^ 64 ∧
        resolve 3 0x8000000000000000 0xffffffffffffffff = .ok ⟨3, 2, 0xffffffffffffffff⟩ ∧
        ∀ i < (0xffffffffffffffff : UInt64).toNat,
          ¬ (⟨0xffffffffffffffff, 0x8000000000000000⟩ : Limits).HasIndex i := by
  have hsize : (0x8000000000000000 : UInt64) ≠ 0 := by decide
  have hpage : IsPage 0xffffffffffffffff 0x8000000000000000 2 := ⟨by decide, by decide⟩
  have hbehind : (pages 0xffffffffffffffff 0x8000000000000000).toNat < 3 := by decide
  have hsecond : resolve 2 0x8000000000000000 0xffffffffffffffff = .ok ⟨2, 2, 0x8000000000000000⟩ :=
    rfl
  have hminus : resolve (-1) 0x8000000000000000 0xffffffffffffffff =
      .ok ⟨2, 2, 0x8000000000000000⟩ := rfl
  have hthird : resolve 3 0x8000000000000000 0xffffffffffffffff = .ok ⟨3, 2, 0xffffffffffffffff⟩ :=
    rfl
  obtain ⟨hrows, hnumbers, hlast, hfar⟩ := resolve_places_pages hsize 0xffffffffffffffff
  obtain ⟨_, hw, hof, -⟩ := hnumbers 2 2 rfl hpage
  obtain rfl := Except.ok.inj (hw.symm.trans hsecond)
  obtain ⟨_, hw, hlastOf⟩ := hlast
  obtain rfl := Except.ok.inj (hw.symm.trans hminus)
  obtain ⟨_, hw, -, -, -, hempty⟩ := hfar 3 3 rfl hbehind
  obtain rfl := Except.ok.inj (hw.symm.trans hthird)
  exact ⟨hsize, hrows _ (by decide), ⟨hpage, hsecond, hof⟩, ⟨hminus, hlastOf⟩, hbehind, rfl,
    hthird, hempty⟩

end Windows

end PageWindow

end SelectBuilder
