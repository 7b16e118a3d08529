import SelectBuilder.Error

/-! Pages of a result: their number, their place, and what a page holds. -/
namespace SelectBuilder

attribute [local instance (high)] instPowNat

structure Page (α : Type) where
  objects : List α
  /-- The rows of all pages. -/
  numberOfObjects : UInt64
  pagesTotal : UInt64
  /-- Pages are numbered from one. -/
  number : UInt64
  pageSize : UInt64

/-- No page with rows comes after this one. -/
def Page.isLast {α : Type} (page : Page α) : Bool :=
  page.pagesTotal ≤ page.number

structure PageWindow where
  number : UInt64
  pagesTotal : UInt64
  offset : UInt64
  deriving DecidableEq, Repr

namespace PageWindow

/-- The number that asks for the last page. -/
def lastPage : Int64 := -1

/-- How many pages hold so many rows, the last one being partly filled perhaps. -/
def pages (count size : UInt64) : UInt64 :=
  if count % size = 0 then count / size else count / size + 1

/-- A product that stops at the largest number. -/
def product (a b : UInt64) : UInt64 :=
  UInt64.ofNat (min (a.toNat * b.toNat) (2 ^ (64 : Nat) - 1))

/-- The place of page `number` of pages with `size` rows. The last page of an empty result is page
one; a page past the end has a place like any other. -/
def resolve (number : Int64) (size count : UInt64) : Except QueryError PageWindow :=
  if size = 0 then .error (.invalidArgument .emptyPage)
  else
    let total := pages count size
    let window (n : UInt64) : PageWindow := ⟨n, total, product (n - 1) size⟩
    if number = lastPage then .ok (window (max total 1))
    else if number < 1 then .error (.invalidArgument (.pageNumber number))
    else .ok (window number.toUInt64)

def page {α : Type} (window : PageWindow) (objects : List α) (count size : UInt64) : Page α :=
  ⟨objects, count, window.pagesTotal, window.number, size⟩

end PageWindow

end SelectBuilder
