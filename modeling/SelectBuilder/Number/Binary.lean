/-! A 64-bit float as sign and magnitude, read off its bits. -/
namespace SelectBuilder

-- The powers here are the built-in ones, also where an algebra in scope brings its own.
attribute [local instance (high)] instPowNat

/-- The number `mantissa * 2^exponent`. -/
structure Dyadic where
  mantissa : Nat
  exponent : Int
  /-- The float below lies only half as far away as the float above. -/
  narrow : Bool
  deriving DecidableEq, Repr

inductive Magnitude where
  | notANumber
  | infinite
  | finite (value : Dyadic)
  deriving DecidableEq, Repr

structure Binary where
  negative : Bool
  magnitude : Magnitude
  deriving DecidableEq, Repr

namespace Binary

/-- Eleven bits of exponent and fifty-two of fraction; the exponent 0 marks the values next to zero,
and the largest exponent marks infinity and what is not a number. -/
def ofBits (bits : UInt64) : Binary :=
  let exponent : Nat := (bits.toNat >>> 52) % 2 ^ (11 : Nat)
  let fraction : Nat := bits.toNat % 2 ^ (52 : Nat)
  let magnitude :=
    if exponent = 2 ^ (11 : Nat) - 1 then
      if fraction = 0 then .infinite else .notANumber
    else if exponent = 0 then .finite ⟨fraction, -1074, false⟩
    else .finite ⟨2 ^ (52 : Nat) + fraction, (exponent : Int) - 1075,
      fraction == 0 && exponent != 1⟩
  ⟨bits.toNat >>> 63 == 1, magnitude⟩

def ofFloat (x : Float) : Binary :=
  ofBits x.toBits

def integer? (x : Binary) : Option Int :=
  match x.magnitude with
  | .finite d =>
    let scale := 2 ^ (-d.exponent).toNat
    if d.mantissa % scale = 0 then
      let n := d.mantissa / scale * 2 ^ d.exponent.toNat
      some (if x.negative then -(n : Int) else n)
    else none
  | _ => none

end Binary

end SelectBuilder
