import SelectBuilder.Query.Select

/-! Ranges of row indexes and the window that they stand for. -/
namespace SelectBuilder

inductive Bound where
  | included (index : Int64)
  | excluded (index : Int64)
  | unbounded
  deriving DecidableEq, Repr

/-- The next index, the largest one being its own successor. -/
def nextIndex (n : Int64) : Int64 :=
  if n = Int64.maxValue then n else n + 1

namespace Bound

/-- The first index of a range that starts here. -/
def first : Bound → Int64
  | .included n => n
  | .excluded n => nextIndex n
  | .unbounded => 0

/-- The index behind the last one of a range that stops here. -/
def stop : Bound → Int64
  | .included n => nextIndex n
  | .excluded n => n
  | .unbounded => Int64.maxValue

end Bound

def Limits.ofBounds (start stop : Bound) : Except QueryError Limits :=
  let first := start.first
  let stop := stop.stop
  if first < 0 || stop < 0 then .error (.invalidArgument .negativeIndex)
  else if stop < first then .error (.invalidArgument .reversedSlice)
  else .ok ⟨first.toUInt64, (stop - first).toUInt64⟩

end SelectBuilder
