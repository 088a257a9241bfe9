import Chip8.Decimal.Binary
import Chip8.Text.Number

/-!
Numbers with the fewest decimal digits that still identify them. `readsBack` says which decimals
round to a given binary number, and `shortest` searches the decimal grids from coarse to fine for
one, with the nearer of two. `Style` lays the digits out.
-/

namespace Chip8.Decimal

structure Scaled where
  digits : Nat
  exponent : Int
  deriving DecidableEq, Repr

def Scaled.compare (x : Scaled) (mantissa : Nat) (exponent : Int) : Ordering :=
  Ord.compare (x.digits * Nat.pow 10 x.exponent.toNat * Nat.pow 2 (-exponent).toNat)
    (mantissa * Nat.pow 2 exponent.toNat * Nat.pow 10 (-x.exponent).toNat)

/-- Whether a mantissa is the least of its power of two, so that the next number below is nearer
than the one above. -/
def isLowest (mantissa : Nat) (exponent : Int) : Bool :=
  mantissa = 0x10000000000000 ∧ -1074 < exponent

/-- Whether a decimal lies among the reals that round to a binary number. The bounds lie halfway to
the neighbours, here in quarters of the last binary place, and belong to an even mantissa. -/
def readsBack (mantissa : Nat) (exponent : Int) (x : Scaled) : Bool :=
  let lower := if isLowest mantissa exponent then 4 * mantissa - 1 else 4 * mantissa - 2
  let upper := 4 * mantissa + 2
  let fromLower := x.compare lower (exponent - 2)
  let toUpper := x.compare upper (exponent - 2)
  if mantissa % 2 = 0 then fromLower != .lt && toUpper != .gt
  else fromLower == .gt && toUpper == .lt

def digitCount (number : Nat) : Nat := (Nat.toDigits 10 number).length

def magnitude (numerator denominator : Nat) : Int :=
  if denominator ≤ numerator then digitCount (numerator / denominator)
  else 1 - digitCount ((denominator - 1) / numerator)

def neighbours (mantissa : Nat) (exponent scale : Int) : List Scaled :=
  let top := numerator mantissa exponent * Nat.pow 10 (-scale).toNat
  let bottom := denominator exponent * Nat.pow 10 scale.toNat
  let below : Scaled := ⟨top / bottom, scale⟩
  let above : Scaled := ⟨top / bottom + 1, scale⟩
  let twice := 2 * (top % bottom)
  if twice < bottom ∨ (twice = bottom ∧ below.digits % 2 = 0) then [below, above]
  else [above, below]

/-- Seventeen digits always suffice; the exact value stands in where the search finds nothing. -/
def shortest (mantissa : Nat) (exponent : Int) : Scaled :=
  let size := magnitude (numerator mantissa exponent) (denominator exponent)
  let candidates := (List.range 17).flatMap fun (i : Nat) =>
    neighbours mantissa exponent (size - (i + 1 : Nat))
  match candidates.find? (readsBack mantissa exponent) with
  | some found => found
  | none => ⟨numerator mantissa exponent * Nat.pow 5 (-exponent).toNat, min exponent 0⟩

structure Style where
  /-- The least and the greatest position of the point, counted from the first digit. -/
  positional : Int × Int
  exponentDigits : Nat

def significant (x : Scaled) : List Char :=
  ((Nat.toDigits 10 x.digits).reverse.dropWhile (· == '0')).reverse

def Style.positionalText (digits : List Char) (point : Int) : String :=
  if point ≤ 0 then
    "0." ++ String.ofList (List.replicate (-point).toNat '0' ++ digits)
  else
    let whole := digits.take point.toNat ++ List.replicate (point.toNat - digits.length) '0'
    let fraction := digits.drop point.toNat
    String.ofList whole ++ "." ++ (if fraction.isEmpty then "0" else String.ofList fraction)

def Style.exponentText (style : Style) (digits : List Char) (point : Int) : String :=
  let power := point - 1
  let mantissa := match digits with
    | [] => "0"
    | [first] => String.singleton first
    | first :: rest => String.singleton first ++ "." ++ String.ofList rest
  let size := Text.padLeft style.exponentDigits '0' (Text.decimal power.natAbs)
  mantissa ++ (if power < 0 then "e-" else "e+") ++ size

def Style.text (style : Style) : Binary → String
  | .finite negative mantissa exponent =>
    if mantissa = 0 then sign negative ++ "0.0"
    else
      let x := shortest mantissa exponent
      let digits := significant x
      let point := (digitCount x.digits : Int) + x.exponent
      let (least, greatest) := style.positional
      sign negative ++
        (if least ≤ point ∧ point ≤ greatest then Style.positionalText digits point
         else style.exponentText digits point)
  | .infinite negative => sign negative ++ "inf"
  | .nan => "nan"

end Chip8.Decimal
