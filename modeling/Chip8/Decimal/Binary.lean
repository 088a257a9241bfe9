/-!
Binary floating-point numbers as exact quantities. `Binary.ofFloat` takes a number apart; a finite
one is a natural number times a power of two, given as a fraction by `numerator` and `denominator`.
-/

namespace Chip8.Decimal

inductive Binary where
  | finite (negative : Bool) (mantissa : Nat) (exponent : Int)
  | infinite (negative : Bool)
  | nan
  deriving DecidableEq, Repr

/-- Takes a 64-bit number apart. The least exponent belongs to the numbers without a hidden bit. -/
def Binary.ofFloat (x : Float) : Binary :=
  let bits := x.toBits.toNat
  let negative := bits / 0x8000000000000000 = 1
  let exponent : Nat := bits / 0x10000000000000 % 0x800
  let fraction := bits % 0x10000000000000
  if exponent = 2047 then (if fraction = 0 then .infinite negative else .nan)
  else if exponent = 0 then .finite negative fraction (-1074)
  else .finite negative (0x10000000000000 + fraction) ((exponent : Int) - 1075)

def numerator (mantissa : Nat) (exponent : Int) : Nat := mantissa * Nat.pow 2 exponent.toNat

def denominator (exponent : Int) : Nat := Nat.pow 2 (-exponent).toNat

def sign (negative : Bool) : String := if negative then "-" else ""

end Chip8.Decimal
