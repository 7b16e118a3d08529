import SelectBuilder.Number.Binary
import SelectBuilder.Text.Blank

/-!
Floats in decimal notation with the fewest digits that read back as the same float. Among equally
short decimals the nearest one is taken, and of two equally near ones the larger.
-/
namespace SelectBuilder

attribute [local instance (high)] instPowNat

/-- Digits without trailing zeros, and how many of them stand before the decimal point. The count is
negative when zeros stand between the point and the first digit. -/
structure PointedDigits where
  digits : List Char
  point : Int
  deriving DecidableEq, Repr

namespace Dyadic

/-- Numerator and denominator of `2^q / 10^e`. -/
def gridRatio (q e : Int) : Nat × Nat :=
  (2 ^ q.toNat * 10 ^ (-e).toNat, 2 ^ (-q).toNat * 10 ^ e.toNat)

/-- The multiple of `10^e` that reads back as this float. Reals from halfway to the float below to
halfway to the float above read back; both ends do when the mantissa is even. -/
def onGrid? (x : Dyadic) (e : Int) : Option Nat :=
  let (unit, step) := gridRatio (x.exponent - 2) e
  let low := (4 * x.mantissa - (if x.narrow then 1 else 2)) * unit
  let middle := 4 * x.mantissa * unit
  let high := (4 * x.mantissa + 2) * unit
  let fits (n : Nat) : Bool :=
    if x.mantissa % 2 = 0 then low ≤ n * step && n * step ≤ high
    else low < n * step && n * step < high
  let below := middle / step
  match fits below, fits (below + 1) with
  | true, true => some (if 2 * middle < (2 * below + 1) * step then below else below + 1)
  | true, false => some below
  | false, true => some (below + 1)
  | false, false => none

/-- The least `k` for which a value that is not zero lies below `10^k`. The binary logarithm gives
it up to two steps. -/
def scale (x : Dyadic) : Int :=
  let guess := (x.mantissa.log2 + x.exponent) * 30103 / 100000
  let lies (k : Int) : Bool :=
    let (unit, step) := gridRatio x.exponent k
    x.mantissa * unit < step
  if lies guess then guess else if lies (guess + 1) then guess + 1 else guess + 2

/-- The fewest digits that read back, found on ever finer grids. Seventeen digits always suffice;
the exact value stands behind them. -/
def shortest (x : Dyadic) : PointedDigits :=
  if x.mantissa = 0 then ⟨['0'], 1⟩
  else
    let k := x.scale
    let found := (List.range 17).findSome? fun (n : Nat) =>
      (x.onGrid? (k - n - 1)).map fun m => (m, k - (n : Int) - 1)
    let (m, e) := found.getD
      (x.mantissa * 2 ^ x.exponent.toNat * 5 ^ (-x.exponent).toNat, min x.exponent 0)
    let digits := Nat.toDigits 10 m
    ⟨Text.dropEndWhile (· == '0') digits, digits.length + e⟩

end Dyadic

namespace PointedDigits

def positional (d : PointedDigits) (pointZero : Bool) : List Char :=
  if d.point ≤ 0 then
    '0' :: '.' :: (List.replicate (-d.point).toNat '0' ++ d.digits)
  else
    let whole := d.point.toNat
    if d.digits.length ≤ whole then
      d.digits ++ List.replicate (whole - d.digits.length) '0' ++
        (if pointZero then ['.', '0'] else [])
    else d.digits.take whole ++ '.' :: d.digits.drop whole

/-- One digit before the point, and the power of ten behind the letter `e`. -/
def scientific (d : PointedDigits) : List Char :=
  let exponent := toString (d.point - 1)
  d.digits.take 1 ++ (if d.digits.length ≤ 1 then [] else '.' :: d.digits.drop 1) ++
    'e' :: exponent.toList

end PointedDigits

/-- What a float text leaves open once its digits are chosen. -/
structure FloatStyle where
  /-- Whether a number with this power of ten is written without an exponent. -/
  plain : Int → Bool
  /-- A whole number ends in `.0`. -/
  pointZero : Bool
  notANumber : String

namespace FloatStyle

/-- Literals never have an exponent, and whole numbers no point. -/
def literal : FloatStyle := ⟨fun _ => true, false, "nan"⟩

/-- Descriptions show that a number is a float, and keep very large and very small ones short. -/
def description : FloatStyle := ⟨fun e => -5 < e && e < 16, true, "NaN"⟩

def render (style : FloatStyle) (x : Float) : String :=
  let b := Binary.ofFloat x
  let sign := if b.negative then "-" else ""
  match b.magnitude with
  | .notANumber => style.notANumber
  | .infinite => sign ++ "inf"
  | .finite d =>
    let shortest := d.shortest
    sign ++ String.ofList
      (if style.plain (shortest.point - 1) then shortest.positional style.pointZero
        else shortest.scientific)

end FloatStyle

end SelectBuilder
