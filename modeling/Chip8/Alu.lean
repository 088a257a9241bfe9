/-!
Arithmetic on two registers. Each operation yields a byte and, except for copying and the bitwise
operations, a flag: the carry of a sum, the absence of a borrow, or the bit that a shift drops. The
lemmas state the flagged operations as equations over the natural numbers.
-/

namespace Chip8.Alu

inductive Operation where
  | copy
  | or
  | and
  | xor
  | add
  | sub
  | shiftRight
  | subFrom
  | shiftLeft
  deriving DecidableEq, Repr

def Operation.isShift : Operation → Bool
  | .shiftRight | .shiftLeft => true
  | _ => false

def add (a b : UInt8) : UInt8 × Bool := (a + b, 256 ≤ a.toNat + b.toNat)

def sub (a b : UInt8) : UInt8 × Bool := (a - b, b ≤ a)

def shiftRight (source : UInt8) : UInt8 × Bool := (source >>> 1, source &&& 1 = 1)

def shiftLeft (source : UInt8) : UInt8 × Bool := (source <<< 1, source >>> 7 = 1)

/-- The result of an operation, and its flag where it has one. A shift looks at `a` only. -/
def evaluate (operation : Operation) (a b : UInt8) : UInt8 × Option Bool :=
  let flagged := fun (outcome : UInt8 × Bool) => (outcome.1, some outcome.2)
  match operation with
  | .copy => (b, none)
  | .or => (a ||| b, none)
  | .and => (a &&& b, none)
  | .xor => (a ^^^ b, none)
  | .add => flagged (add a b)
  | .sub => flagged (sub a b)
  | .shiftRight => flagged (shiftRight a)
  | .subFrom => flagged (sub b a)
  | .shiftLeft => flagged (shiftLeft a)

theorem add_toNat (a b : UInt8) :
    (add a b).1.toNat + 256 * (add a b).2.toNat = a.toNat + b.toNat := by
  have ha := a.toNat_lt
  have hb := b.toNat_lt
  by_cases carry : 256 ≤ a.toNat + b.toNat <;> simp [add, carry] <;> omega

theorem sub_toNat (a b : UInt8) :
    (sub a b).1.toNat + b.toNat + 256 * (sub a b).2.toNat = a.toNat + 256 := by
  have ha := a.toNat_lt
  have hb := b.toNat_lt
  have exact : (a - b).toNat = (2 ^ 8 - b.toNat + a.toNat) % 2 ^ 8 := UInt8.toNat_sub a b
  by_cases whole : b ≤ a <;> simp only [sub, whole, exact] <;>
    simp [UInt8.le_iff_toNat_le] at whole ⊢ <;> omega

theorem shiftRight_toNat (source : UInt8) :
    2 * (shiftRight source).1.toNat + (shiftRight source).2.toNat = source.toNat := by
  have low : (source &&& 1 = 1) ↔ source.toNat % 2 = 1 := by
    rw [← UInt8.toNat_inj]
    simp [Nat.and_one_is_mod]
  by_cases odd : source.toNat % 2 = 1 <;>
    simp [shiftRight, low, odd, Nat.shiftRight_eq_div_pow] <;> omega

theorem shiftLeft_toNat (source : UInt8) :
    (shiftLeft source).1.toNat + 256 * (shiftLeft source).2.toNat = 2 * source.toNat := by
  have bound := source.toNat_lt
  have high : (source >>> 7 = 1) ↔ source.toNat / 128 = 1 := by
    rw [← UInt8.toNat_inj]
    simp [Nat.shiftRight_eq_div_pow]
  by_cases set : source.toNat / 128 = 1 <;>
    simp [shiftLeft, high, set, Nat.shiftLeft_eq] <;> omega

end Chip8.Alu
