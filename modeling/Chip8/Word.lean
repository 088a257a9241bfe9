import Chip8.Layout

/-!
The fields of a two-byte instruction word. The word is its four hexadecimal digits in order:
`opcode`, `x`, `y` and `n`; `byte` is its last two digits and `address` its last three.
-/

namespace Chip8.Word

def digit (word : UInt16) (weight : Nat) : Fin 16 :=
  ⟨word.toNat / weight % 16, Nat.mod_lt _ (by decide)⟩

def opcode (word : UInt16) : Fin 16 := digit word 0x1000

def x (word : UInt16) : Register := digit word 0x100

def y (word : UInt16) : Register := digit word 0x10

def n (word : UInt16) : Fin 16 := digit word 1

def byte (word : UInt16) : UInt8 := word.toUInt8

def address (word : UInt16) : Address := ⟨word.toNat % 4096, Nat.mod_lt _ (by decide)⟩

def ofBytes (high low : UInt8) : UInt16 := (high.toUInt16 <<< 8) ||| low.toUInt16

def ofInt? (number : Int) : Option UInt16 :=
  if 0 ≤ number ∧ number < 0x10000 then some (UInt16.ofNat number.toNat) else none

def isSigned32 (number : Int) : Bool := -0x80000000 ≤ number ∧ number < 0x80000000

/-- A word from two machine integers. Each counts modulo 65536, and the second may reach into the
high byte. -/
def ofParts? (high low : Int) : Option UInt16 :=
  if isSigned32 high && isSigned32 low then
    some ((UInt16.ofInt high <<< 8) ||| UInt16.ofInt low)
  else none

end Chip8.Word
