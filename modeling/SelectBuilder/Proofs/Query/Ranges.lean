import SelectBuilder.Proofs.Query.Aggregation

/-! Ranges of row indexes, and the windows that stand for them, in exact integers. A bound that is
not part of its range is moved by one, and no further than to the largest index; after that nothing
is rounded. The window holds exactly the indexes of the range below the largest one. Since bounds
are looked at after they have moved, some that are negative or the wrong way round pass. -/
namespace SelectBuilder

def lastIndex : Int :=
  Int64.maxValue.toInt

theorem lastIndex_eq : lastIndex = 9223372036854775807 := rfl

namespace Bound

def index? : Bound → Option Int64
  | .included n | .excluded n => some n
  | .unbounded => none

/-- An index is not in front of a range that starts here. -/
def AdmitsFrom : Bound → Int → Prop
  | .included n, i => n.toInt ≤ i
  | .excluded n, i => n.toInt < i
  | .unbounded, _ => True

def AdmitsTo : Bound → Int → Prop
  | .included n, i => i ≤ n.toInt
  | .excluded n, i => i < n.toInt
  | .unbounded, _ => True

/-- The first index of a range that starts here, the largest one at most. -/
def firstIndex : Bound → Int
  | .included n => n.toInt
  | .excluded n => min (n.toInt + 1) lastIndex
  | .unbounded => 0

/-- The index behind the last one of a range that stops here, the largest one at most. -/
def stopIndex : Bound → Int
  | .included n => min (n.toInt + 1) lastIndex
  | .excluded n => n.toInt
  | .unbounded => lastIndex

end Bound

section Steps

theorem toInt_nextIndex (n : Int64) : (nextIndex n).toInt = min (n.toInt + 1) lastIndex := by
  have hlast := lastIndex_eq
  have hle : n.toInt ≤ lastIndex := n.toInt_le
  have hge := n.le_toInt
  unfold nextIndex
  split
  next h =>
    have hn : n.toInt = lastIndex := congrArg Int64.toInt h
    omega
  next h =>
    have hne : n.toInt ≠ lastIndex := fun heq => h (Int64.toInt_inj.mp heq)
    rw [Int64.toInt_add, Int64.toInt_one, Int.bmod_eq_of_le (by omega) (by omega)]
    omega

theorem Bound.toInt_first (b : Bound) : b.first.toInt = b.firstIndex := by
  cases b with
  | included n => rfl
  | excluded n => exact toInt_nextIndex n
  | unbounded => rfl

theorem Bound.toInt_stop (b : Bound) : b.stop.toInt = b.stopIndex := by
  cases b with
  | included n => exact toInt_nextIndex n
  | excluded n => rfl
  | unbounded => rfl

variable {start stop : Bound}

/-- Bounds are judged after they have moved: first whether one of them is negative, then whether
they are in order. -/
theorem Limits.ofBounds_eq (start stop : Bound) :
    Limits.ofBounds start stop =
      if start.firstIndex < 0 ∨ stop.stopIndex < 0 then .error (.invalidArgument .negativeIndex)
      else if stop.stopIndex < start.firstIndex then .error (.invalidArgument .reversedSlice)
      else .ok ⟨start.first.toUInt64, (stop.stop - start.first).toUInt64⟩ := by
  have hfirst : start.first < 0 ↔ start.firstIndex < 0 := by
    rw [Int64.lt_iff_toInt_lt, start.toInt_first, Int64.toInt_zero]
  have hstop : stop.stop < 0 ↔ stop.stopIndex < 0 := by
    rw [Int64.lt_iff_toInt_lt, stop.toInt_stop, Int64.toInt_zero]
  have horder : stop.stop < start.first ↔ stop.stopIndex < start.firstIndex := by
    rw [Int64.lt_iff_toInt_lt, start.toInt_first, stop.toInt_stop]
  unfold Limits.ofBounds
  simp [hfirst, hstop, horder]

theorem Limits.ofBounds_eq_ok {limits : Limits} (h : Limits.ofBounds start stop = .ok limits) :
    0 ≤ start.firstIndex ∧ start.firstIndex ≤ stop.stopIndex ∧
      limits = ⟨start.first.toUInt64, (stop.stop - start.first).toUInt64⟩ := by
  rw [Limits.ofBounds_eq] at h
  split at h
  next => cases h
  next hsigns =>
    split at h
    next => cases h
    next horder => exact ⟨by omega, by omega, (Except.ok.inj h).symm⟩

end Steps

section Windows

variable {start stop : Bound} {limits : Limits}

def InRange (start stop : Bound) (i : Int) : Prop :=
  start.AdmitsFrom i ∧ stop.AdmitsTo i

namespace Limits

def stopIndex (limits : Limits) : Nat :=
  limits.offset.toNat + limits.count.toNat

def HasIndex (limits : Limits) (i : Int) : Prop :=
  limits.offset.toNat ≤ i ∧ i < limits.stopIndex

/-- A window holds what a range holds, ends by the largest index, and is what exact integers make of
the bounds: no step on the way to it leaves the integers that it is made with. -/
structure Describes (limits : Limits) (start stop : Bound) : Prop where
  hasIndex_iff : ∀ i : Int, 0 ≤ i → i < lastIndex → (limits.HasIndex i ↔ InRange start stop i)
  stopIndex_le : (limits.stopIndex : Int) ≤ lastIndex
  first_eq : start.first.toInt = start.firstIndex
  stop_eq : stop.stop.toInt = stop.stopIndex
  difference_eq : (stop.stop - start.first).toInt = stop.stopIndex - start.firstIndex
  offset_eq : (limits.offset.toNat : Int) = start.firstIndex
  count_eq : (limits.count.toNat : Int) = stop.stopIndex - start.firstIndex

theorem not_hasIndex_of_lt {i : Nat} (h : i < limits.offset.toNat) : ¬ limits.HasIndex i := by
  intro hi
  have hle : (limits.offset.toNat : Int) ≤ i := hi.1
  omega

end Limits

theorem Bound.admitsFrom_iff (b : Bound) {i : Int} (hi : 0 ≤ i) (hlast : i < lastIndex) :
    b.AdmitsFrom i ↔ b.firstIndex ≤ i := by
  cases b with
  | included n => rfl
  | excluded n =>
    simp only [AdmitsFrom, firstIndex]
    omega
  | unbounded => simpa [AdmitsFrom, firstIndex] using hi

theorem Bound.admitsTo_iff (b : Bound) {i : Int} (hlast : i < lastIndex) :
    b.AdmitsTo i ↔ i < b.stopIndex := by
  cases b with
  | included n =>
    simp only [AdmitsTo, stopIndex]
    omega
  | excluded n => rfl
  | unbounded => simpa [AdmitsTo, stopIndex] using hlast

theorem Bound.stopIndex_le (b : Bound) : b.stopIndex ≤ lastIndex := by
  cases b with
  | included n => exact Int.min_le_right ..
  | excluded n => exact n.toInt_le
  | unbounded => exact Int.le_refl _

theorem toNat_toUInt64_of_nonneg {n : Int64} (h : 0 ≤ n.toInt) :
    (n.toUInt64.toNat : Int) = n.toInt := by
  have hn : 0 ≤ n := Int64.le_iff_toInt_le.mpr h
  rw [Int64.toNat_toUInt64_of_le hn]
  exact Int.toNat_of_nonneg h

theorem toNat_toUInt64_of_toInt_eq {n : Int64} {k : Nat} (h : n.toInt = k) :
    n.toUInt64.toNat = k := by
  have hvalue : (n.toUInt64.toNat : Int) = n.toInt := toNat_toUInt64_of_nonneg (by omega)
  omega

theorem Limits.describes_ofBounds (h : Limits.ofBounds start stop = .ok limits) :
    limits.Describes start stop := by
  obtain ⟨hsign, horder, rfl⟩ := Limits.ofBounds_eq_ok h
  have hfirst := start.toInt_first
  have hstop := stop.toInt_stop
  have hnonneg : 0 ≤ start.first := Int64.le_iff_toInt_le.mpr (hfirst ▸ hsign)
  have hle : start.first ≤ stop.stop :=
    Int64.le_iff_toInt_le.mpr (by rw [hfirst, hstop]; exact horder)
  have hdifference : (stop.stop - start.first).toInt = stop.stopIndex - start.firstIndex := by
    rw [Int64.toInt_sub_of_le _ _ hnonneg hle, hfirst, hstop]
  have hoffset : (start.first.toUInt64.toNat : Int) = start.firstIndex := by
    rw [toNat_toUInt64_of_nonneg (hfirst ▸ hsign), hfirst]
  have hcount : ((stop.stop - start.first).toUInt64.toNat : Int) =
      stop.stopIndex - start.firstIndex := by
    rw [toNat_toUInt64_of_nonneg (by omega), hdifference]
  have hlast := stop.stopIndex_le
  refine ⟨fun i hi hilast => ?_, ?_, hfirst, hstop, hdifference, hoffset, hcount⟩
  · rw [InRange, start.admitsFrom_iff hi hilast, stop.admitsTo_iff hilast, HasIndex,
      Limits.stopIndex]
    push_cast
    omega
  · rw [Limits.stopIndex]
    push_cast
    omega

theorem Query.slice_eq_map (q : Query) (start stop : Bound) :
    q.slice start stop = (Limits.ofBounds start stop).map q.withLimits := by
  rw [slice]
  cases Limits.ofBounds start stop <;> rfl

theorem Aggregate.refine_slice_eq_map (a : Aggregate) (start stop : Bound) :
    a.refine (.slice start stop) =
      (Limits.ofBounds start stop).map fun limits => a.withBase (a.base.withLimits limits) := by
  rw [refine, Query.refine, Query.slice_eq_map]
  cases Limits.ofBounds start stop <;> rfl

/-- The window of an accepted range, in a query and in an aggregation, holds exactly the indexes of
the range, ends by the largest index, and comes about without any step that overflows. -/
theorem slice_describes_range (start stop : Bound) :
    (∀ q p : Query, q.slice start stop = .ok p →
      ∃ limits, p.limits = some limits ∧ limits.Describes start stop) ∧
      ∀ a b : Aggregate, a.refine (.slice start stop) = .ok b →
        ∃ limits, b.base.limits = some limits ∧ limits.Describes start stop := by
  refine ⟨fun q p h => ?_, fun a b h => ?_⟩
  · rw [q.slice_eq_map] at h
    obtain ⟨limits, hlimits, rfl⟩ := Outcome.map_eq_ok.mp h
    exact ⟨limits, rfl, Limits.describes_ofBounds hlimits⟩
  · rw [a.refine_slice_eq_map] at h
    obtain ⟨limits, hlimits, rfl⟩ := Outcome.map_eq_ok.mp h
    exact ⟨limits, rfl, Limits.describes_ofBounds hlimits⟩

/-- From behind minus one up to the largest index, which is the whole of the indexes, and from the
largest index on. -/
theorem slice_describes_range_ends :
    let q := Query.all .person
    let a := q.grouped [] ⟨[("n", "count()")]⟩
    let whole := q.withLimits ⟨0, 9223372036854775807⟩
    let last := a.withBase (q.withLimits ⟨9223372036854775807, 0⟩)
    (q.slice (.excluded (-1)) (.included Int64.maxValue) = .ok whole ∧
        (⟨0, 9223372036854775807⟩ : Limits).Describes (.excluded (-1)) (.included Int64.maxValue)) ∧
      a.refine (.slice (.excluded Int64.maxValue) .unbounded) = .ok last ∧
        (⟨9223372036854775807, 0⟩ : Limits).Describes (.excluded Int64.maxValue) .unbounded := by
  intro q a whole last
  have hwhole : q.slice (.excluded (-1)) (.included Int64.maxValue) = .ok whole := rfl
  have hlast : a.refine (.slice (.excluded Int64.maxValue) .unbounded) = .ok last := rfl
  obtain ⟨_, ⟨⟩, hquery⟩ :=
    (slice_describes_range (.excluded (-1)) (.included Int64.maxValue)).1 q whole hwhole
  obtain ⟨_, ⟨⟩, haggregate⟩ :=
    (slice_describes_range (.excluded Int64.maxValue) .unbounded).2 a last hlast
  exact ⟨⟨hwhole, hquery⟩, hlast, haggregate⟩

end Windows

section Refusals

variable {start stop : Bound}

def Bound.IsNegative (b : Bound) : Prop :=
  ∃ n ∈ b.index?, n.toInt < 0

def Reversed (start stop : Bound) : Prop :=
  ∃ m ∈ start.index?, ∃ n ∈ stop.index?, n.toInt < m.toInt

def IsBadRange (start stop : Bound) : Prop :=
  start.IsNegative ∨ stop.IsNegative ∨ Reversed start stop

/-- The bad ranges that pass: a bound is minus one and moves to zero, or the stop moves up to the
start. -/
def Overlooked : Bound → Bound → Prop
  | .included m, .included n => 0 ≤ m.toInt ∧ m.toInt = n.toInt + 1
  | .excluded m, .included n =>
    m.toInt = -1 ∧ -1 ≤ n.toInt ∨ m.toInt = lastIndex ∧ n.toInt = lastIndex - 1
  | .excluded m, .excluded n => m.toInt = -1 ∧ 0 ≤ n.toInt
  | .excluded m, .unbounded => m.toInt = -1
  | .unbounded, .included n => n.toInt = -1
  | _, _ => False

def IsRefused {α : Type} (x : Except QueryError α) : Prop :=
  ∃ fault, x = .error (.invalidArgument fault)

namespace Bound

@[simp] theorem index?_included (n : Int64) : (included n).index? = some n := rfl

@[simp] theorem index?_excluded (n : Int64) : (excluded n).index? = some n := rfl

@[simp] theorem index?_unbounded : unbounded.index? = none := rfl

end Bound

theorem Limits.isOk_ofBounds_iff (start stop : Bound) :
    (Limits.ofBounds start stop).isOk = true ↔
      0 ≤ start.firstIndex ∧ start.firstIndex ≤ stop.stopIndex := by
  rw [Limits.ofBounds_eq]
  split
  next => exact iff_of_false nofun (by omega)
  next =>
    split
    next => exact iff_of_false nofun (by omega)
    next => exact iff_of_true rfl (by omega)

/-- There is no other failure of a range than a refusal. -/
theorem Limits.isRefused_ofBounds_iff (start stop : Bound) :
    IsRefused (Limits.ofBounds start stop) ↔ (Limits.ofBounds start stop).isOk = false := by
  rw [Limits.ofBounds_eq]
  split
  next => exact iff_of_true ⟨_, rfl⟩ rfl
  next =>
    split
    next => exact iff_of_true ⟨_, rfl⟩ rfl
    next => exact iff_of_false nofun nofun

theorem overlooked_iff (start stop : Bound) :
    Overlooked start stop ↔ IsBadRange start stop ∧ (Limits.ofBounds start stop).isOk = true := by
  have hstart : ∀ m ∈ start.index?, m.toInt ≤ lastIndex := fun m _ => m.toInt_le
  have hstop : ∀ n ∈ stop.index?, n.toInt ≤ lastIndex := fun n _ => n.toInt_le
  have hlast := lastIndex_eq
  rw [Limits.isOk_ofBounds_iff]
  cases start <;> cases stop <;>
    simp [Overlooked, IsBadRange, Bound.IsNegative, Reversed, Bound.firstIndex,
      Bound.stopIndex] at hstart hstop ⊢ <;>
    omega

/-- A range that is not bad is accepted if the index it starts with belongs to it. -/
theorem Limits.isOk_ofBounds (hstart : ∀ n, start ≠ .excluded n) (h : ¬ IsBadRange start stop) :
    (Limits.ofBounds start stop).isOk = true := by
  have hlast := lastIndex_eq
  have hstop : ∀ n ∈ stop.index?, n.toInt ≤ lastIndex := fun n _ => n.toInt_le
  rw [Limits.isOk_ofBounds_iff]
  cases start with
  | included m =>
    have hm : m.toInt ≤ lastIndex := m.toInt_le
    cases stop <;>
      simp [IsBadRange, Bound.IsNegative, Reversed, Bound.firstIndex,
        Bound.stopIndex] at h hstop ⊢ <;>
      omega
  | excluded n => exact absurd rfl (hstart n)
  | unbounded =>
    cases stop <;>
      simp [IsBadRange, Bound.IsNegative, Reversed, Bound.firstIndex,
        Bound.stopIndex] at h hstop ⊢ <;>
      omega

theorem isRefused_map {α β : Type} {x : Except QueryError α} {f : α → β} :
    IsRefused (x.map f) ↔ IsRefused x := by
  cases x with
  | error e => simp [IsRefused, Except.map]
  | ok a => simp [IsRefused, Except.map]

theorem Limits.refuses_bad_iff (start stop : Bound) :
    (IsBadRange start stop → IsRefused (Limits.ofBounds start stop)) ↔ ¬ Overlooked start stop := by
  rw [overlooked_iff, Limits.isRefused_ofBounds_iff, not_and, Bool.not_eq_true]

/-- Bad ranges are refused, in a query and in an aggregation, except for those that are overlooked;
and a range that is not bad is accepted if it starts with the index that it is given by, or is not
given a start. -/
theorem slice_refuses_bad_iff (start stop : Bound) :
    (∀ q : Query, (IsBadRange start stop → IsRefused (q.slice start stop)) ↔
      ¬ Overlooked start stop) ∧ (∀ a : Aggregate,
        (IsBadRange start stop → IsRefused (a.refine (.slice start stop))) ↔
          ¬ Overlooked start stop) ∧
      (¬ IsBadRange start stop → (∀ n, start ≠ .excluded n) →
        (∀ q : Query, (q.slice start stop).isOk = true) ∧
          ∀ a : Aggregate, (a.refine (.slice start stop)).isOk = true) := by
  refine ⟨fun q => ?_, fun a => ?_, fun hbad hstart => ⟨fun q => ?_, fun a => ?_⟩⟩
  · rw [q.slice_eq_map, isRefused_map, Limits.refuses_bad_iff]
  · rw [a.refine_slice_eq_map, isRefused_map, Limits.refuses_bad_iff]
  · rw [q.slice_eq_map, Outcome.isOk_map, Limits.isOk_ofBounds hstart hbad]
  · rw [a.refine_slice_eq_map, Outcome.isOk_map, Limits.isOk_ofBounds hstart hbad]

/-- A range down from five to three is bad and refused, one from three to five is not bad and
accepted. -/
theorem slice_refuses_bad_iff_down :
    let q := Query.all .person
    let a := q.grouped [] ⟨[("n", "count()")]⟩
    (IsBadRange (.included 5) (.included 3) ∧ ¬ Overlooked (.included 5) (.included 3) ∧
        IsRefused (q.slice (.included 5) (.included 3)) ∧
        IsRefused (a.refine (.slice (.included 5) (.included 3)))) ∧
      ¬ IsBadRange (.included 3) (.included 5) ∧ (q.slice (.included 3) (.included 5)).isOk = true ∧
        (a.refine (.slice (.included 3) (.included 5))).isOk = true := by
  intro q a
  have hbad : IsBadRange (.included 5) (.included 3) := .inr (.inr ⟨5, rfl, 3, rfl, by decide⟩)
  have hseen : ¬ Overlooked (.included 5) (.included 3) := by
    rintro ⟨-, h⟩
    revert h
    decide
  have hgood : ¬ IsBadRange (.included 3) (.included 5) := by
    rintro (⟨n, ⟨⟩, h⟩ | ⟨n, ⟨⟩, h⟩ | ⟨m, ⟨⟩, n, ⟨⟩, h⟩) <;> revert h <;> decide
  obtain ⟨hquery, haggregate, -⟩ := slice_refuses_bad_iff (.included 5) (.included 3)
  obtain ⟨-, -, haccepted⟩ := slice_refuses_bad_iff (.included 3) (.included 5)
  obtain ⟨hq, ha⟩ := haccepted hgood nofun
  exact ⟨⟨hbad, hseen, (hquery q).mpr hseen hbad, (haggregate a).mpr hseen hbad⟩, hgood, hq q, ha a⟩

/-- Ranges up to minus one, from behind minus one, and down from five to four are bad, and each is
accepted. -/
theorem bad_ranges_accepted :
    let q := Query.all .person
    let a := q.grouped [] ⟨[("n", "count()")]⟩
    (IsBadRange .unbounded (.included (-1)) ∧
      q.slice .unbounded (.included (-1)) = .ok (q.withLimits ⟨0, 0⟩) ∧
        a.refine (.slice .unbounded (.included (-1))) = .ok (a.withBase (q.withLimits ⟨0, 0⟩))) ∧
      (IsBadRange (.excluded (-1)) (.excluded 3) ∧
        q.slice (.excluded (-1)) (.excluded 3) = .ok (q.withLimits ⟨0, 3⟩)) ∧
      IsBadRange (.included 5) (.included 4) ∧
        q.slice (.included 5) (.included 4) = .ok (q.withLimits ⟨5, 0⟩) := by
  intro q a
  have hstop : IsBadRange .unbounded (.included (-1)) := .inr (.inl ⟨-1, rfl, by decide⟩)
  have hstart : IsBadRange (.excluded (-1)) (.excluded 3) := .inl ⟨-1, rfl, by decide⟩
  have hdown : IsBadRange (.included 5) (.included 4) := .inr (.inr ⟨5, rfl, 4, rfl, by decide⟩)
  exact ⟨⟨hstop, rfl, rfl⟩, ⟨hstart, rfl⟩, hdown, rfl⟩

end Refusals

end SelectBuilder
