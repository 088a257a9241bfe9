import Chip8.Decimal.Binary
import Chip8.Text.Number

/-!
Numbers with a fixed count of decimal places. The exact value is rounded to the nearest multiple of
the last place, and a half goes to the even neighbour (`roundDiv_near` and `roundDiv_even`).
-/

namespace Chip8.Decimal

/-- The natural number nearest to a quotient; of two equally near ones the even one. -/
def roundDiv (numerator denominator : Nat) : Nat :=
  let quotient := numerator / denominator
  let rest := numerator % denominator
  if denominator < 2 * rest ∨ (2 * rest = denominator ∧ quotient % 2 = 1) then quotient + 1
  else quotient

theorem roundDiv_near (n d : Nat) (positive : 0 < d) :
    2 * n ≤ 2 * (roundDiv n d * d) + d ∧ 2 * (roundDiv n d * d) ≤ 2 * n + d := by
  have whole := Nat.div_add_mod n d
  have rest := Nat.mod_lt n positive
  have next : (n / d + 1) * d = d * (n / d) + d := by rw [Nat.add_mul, Nat.mul_comm, Nat.one_mul]
  have same : n / d * d = d * (n / d) := Nat.mul_comm _ _
  by_cases up : d < 2 * (n % d) ∨ (2 * (n % d) = d ∧ n / d % 2 = 1)
  · have rounded : roundDiv n d = n / d + 1 := if_pos up
    rw [rounded, next]
    omega
  · have rounded : roundDiv n d = n / d := if_neg up
    rw [rounded, same]
    omega

theorem roundDiv_even (n d : Nat) (half : 2 * (n % d) = d) : roundDiv n d % 2 = 0 := by
  by_cases odd : n / d % 2 = 1
  · have rounded : roundDiv n d = n / d + 1 := if_pos (Or.inr ⟨half, odd⟩)
    omega
  · have rounded : roundDiv n d = n / d := if_neg (by omega)
    omega

def paddedDigits (width number : Nat) : String := Text.padLeft width '0' (Text.decimal number)

def fixed (places : Nat) : Binary → String
  | .finite negative mantissa exponent =>
    let scaled := roundDiv (numerator mantissa exponent * Nat.pow 10 places) (denominator exponent)
    sign negative ++ Text.decimal (scaled / Nat.pow 10 places : Nat) ++ "." ++
      paddedDigits places (scaled % Nat.pow 10 places)
  | .infinite negative => sign negative ++ "inf"
  | .nan => "nan"

end Chip8.Decimal
