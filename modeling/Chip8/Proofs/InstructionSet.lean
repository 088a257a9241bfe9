import Chip8.Proofs.Instruction
import Mathlib.Tactic.MkIffOfInductiveProp

/-!
The instruction set as it is printed in a manual: a list of four-symbol patterns, and a table of the
instruction that each of them encodes. `decode` realises the table: `decode_eq_iff` for the words of
the set, and `decode_eq_unknown_iff` for those outside it.
-/

namespace Chip8

namespace Word

@[simp]
def digits (word : UInt16) : List Nat := [opcode word, x word, y word, n word]

/-- The digit that a symbol of a pattern asks for. A letter past `F` leaves the digit open. -/
@[simp]
def digit? (symbol : Char) : Option Nat :=
  if symbol ≤ '9' then some (symbol.toNat - '0'.toNat)
  else if symbol ≤ 'F' then some (symbol.toNat - 'A'.toNat + 10)
  else none

@[simp]
def fits : List Char → List Nat → Bool
  | [], [] => true
  | symbol :: symbols, digit :: digits => (digit? symbol).all (digit = ·) && fits symbols digits
  | _, _ => false

def Matches (pattern : String) (word : UInt16) : Prop := fits pattern.toList (digits word) = true

instance (pattern : String) (word : UInt16) : Decidable (Matches pattern word) :=
  inferInstanceAs (Decidable (_ = _))

theorem address_val (word : UInt16) :
    (address word).val = 256 * (x word).val + 16 * (y word).val + (n word).val := by
  have digits := toNat_eq_digits word
  simp only [address]
  omega

end Word

open Word in
@[mk_iff]
inductive Encodes (word : UInt16) : Instruction → Prop
  | clearScreen : Matches "00E0" word → Encodes word .clearScreen
  | ret : Matches "00EE" word → Encodes word .ret
  | jump : Matches "1NNN" word → Encodes word (.jump (address word))
  | call : Matches "2NNN" word → Encodes word (.call (address word))
  | skipIfByte : Matches "3XNN" word → Encodes word (.skipIfByte (x word) (byte word))
  | skipUnlessByte : Matches "4XNN" word → Encodes word (.skipUnlessByte (x word) (byte word))
  | skipIfEqual : Matches "5XY0" word → Encodes word (.skipIfEqual (x word) (y word))
  | setByte : Matches "6XNN" word → Encodes word (.setByte (x word) (byte word))
  | addByte : Matches "7XNN" word → Encodes word (.addByte (x word) (byte word))
  | copy : Matches "8XY0" word → Encodes word (.alu .copy (x word) (y word))
  | or : Matches "8XY1" word → Encodes word (.alu .or (x word) (y word))
  | and : Matches "8XY2" word → Encodes word (.alu .and (x word) (y word))
  | xor : Matches "8XY3" word → Encodes word (.alu .xor (x word) (y word))
  | add : Matches "8XY4" word → Encodes word (.alu .add (x word) (y word))
  | sub : Matches "8XY5" word → Encodes word (.alu .sub (x word) (y word))
  | shiftRight : Matches "8XY6" word → Encodes word (.alu .shiftRight (x word) (y word))
  | subFrom : Matches "8XY7" word → Encodes word (.alu .subFrom (x word) (y word))
  | shiftLeft : Matches "8XYE" word → Encodes word (.alu .shiftLeft (x word) (y word))
  | skipUnlessEqual : Matches "9XY0" word → Encodes word (.skipUnlessEqual (x word) (y word))
  | setIndex : Matches "ANNN" word → Encodes word (.setIndex (address word))
  | jumpOffset : Matches "BNNN" word → Encodes word (.jumpOffset (address word))
  | random : Matches "CXNN" word → Encodes word (.random (x word) (byte word))
  | draw : Matches "DXYN" word → Encodes word (.draw (x word) (y word) (n word))
  | skipIfKey : Matches "EX9E" word → Encodes word (.skipIfKey (x word))
  | skipUnlessKey : Matches "EXA1" word → Encodes word (.skipUnlessKey (x word))
  | readDelay : Matches "FX07" word → Encodes word (.readDelay (x word))
  | awaitKey : Matches "FX0A" word → Encodes word (.awaitKey (x word))
  | setDelay : Matches "FX15" word → Encodes word (.setDelay (x word))
  | setSound : Matches "FX18" word → Encodes word (.setSound (x word))
  | addIndex : Matches "FX1E" word → Encodes word (.addIndex (x word))
  | pointAtGlyph : Matches "FX29" word → Encodes word (.pointAtGlyph (x word))
  | storeDecimal : Matches "FX33" word → Encodes word (.storeDecimal (x word))
  | storeRegisters : Matches "FX55" word → Encodes word (.storeRegisters (x word))
  | loadRegisters : Matches "FX65" word → Encodes word (.loadRegisters (x word))

variable {word : UInt16} {instruction : Instruction}

theorem Encodes.ne_unknown (encodes : Encodes word instruction) : instruction ≠ .unknown := by
  intro unknown
  subst unknown
  cases encodes

namespace Instruction

theorem decode_of_encodes (encodes : Encodes word instruction) : decode word = instruction := by
  have low := Word.byte_toNat word
  have address := Word.address_val word
  cases encodes with
  | _ form =>
    simp [Word.Matches] at form
    simp [decode, decodeDevice, aluOperation?, low, address, form]

theorem encodes_aluOperation? {operation : Alu.Operation} (arithmetic : (Word.opcode word).val = 8)
    (selected : aluOperation? (Word.n word).val = some operation) :
    Encodes word (.alu operation (Word.x word) (Word.y word)) := by
  unfold aluOperation? at selected
  split at selected <;> cases selected <;> constructor <;> simp_all [Word.Matches]

theorem encodes_decodeDevice (device : (Word.opcode word).val = 15)
    (known : decodeDevice (Word.x word) (Word.byte word).toNat = instruction)
    (listed : instruction ≠ .unknown) : Encodes word instruction := by
  have low := Word.byte_toNat word
  have bound := (Word.n word).isLt
  unfold decodeDevice at known
  split at known <;> subst known <;> first | exact absurd rfl listed | constructor
  all_goals
    simp [Word.Matches]
    omega

theorem encodes_decode (listed : decode word ≠ .unknown) : Encodes word (decode word) := by
  have low := Word.byte_toNat word
  have address := Word.address_val word
  have bounds : (Word.opcode word).val < 16 ∧ (Word.y word).val < 16 ∧ (Word.n word).val < 16 := by
    omega
  generalize decoded : decode word = instruction at listed
  unfold decode at decoded
  dsimp only at decoded
  split at decoded
  case h_9 arithmetic =>
    split at decoded
    · subst decoded
      exact encodes_aluOperation? arithmetic ‹_›
    · exact absurd decoded.symm listed
  case h_16 =>
    exact encodes_decodeDevice (by grind) decoded listed
  all_goals try split at decoded
  all_goals
    subst decoded
    first | exact absurd rfl listed | constructor
  all_goals
    simp [Word.Matches]
    omega

theorem decode_eq_iff (listed : instruction ≠ .unknown) :
    decode word = instruction ↔ Encodes word instruction := by
  constructor
  · intro decoded
    subst decoded
    exact encodes_decode listed
  · exact decode_of_encodes

theorem decode_eq_unknown_iff :
    decode word = .unknown ↔ ¬ ∃ instruction, Encodes word instruction := by
  constructor
  · rintro unknown ⟨instruction, encodes⟩
    exact encodes.ne_unknown ((decode_of_encodes encodes).symm.trans unknown)
  · intro outside
    exact Decidable.byContradiction fun listed => outside ⟨_, encodes_decode listed⟩

end Instruction

end Chip8
