import Chip8.Proofs.InstructionSet
import Chip8.Proofs.Machine.Outcome

/-!
When a word raises a status. `Raises` lists the conditions in terms of the digits of the word and the
fields of the machine, and `outcome_decode_eq_iff` says that they are the ones under which the
instruction ends so. The main result is the report of `execute`: each status is raised exactly under
its condition, and a word that raises one changes nothing else, apart from the wait that FX0A starts.
-/

namespace Chip8.Machine

open Word

def SpanOutside (machine : Machine) (length : Nat) : Prop :=
  machine.index.toNat < 0x200 ∨ 0x1000 < machine.index.toNat + length

instance (machine : Machine) (length : Nat) : Decidable (machine.SpanOutside length) :=
  inferInstanceAs (Decidable (_ ∨ _))

def offsetTarget (machine : Machine) (word : UInt16) : Nat :=
  (address word).val +
    (machine.registers.get (if machine.variant.jumpByRegister then x word else 0)).toNat

/-- The condition on which a word raises a status. A full stack hides an unfit target. -/
def Raises (machine : Machine) (word : UInt16) : Status → Prop
  | .noOp => ¬ ∃ instruction, Encodes word instruction
  | .inputHalt => Matches "FX0A" word ∧ ∀ key, machine.keypad.get key = false
  | .stackOverflow => Matches "2NNN" word ∧ 16 ≤ machine.stack.pointer
  | .invalidAddress =>
    word = 0x1FFF ∨ (word = 0x2FFF ∧ machine.stack.pointer < 16) ∨
      (Matches "BNNN" word ∧ 0xFFE < machine.offsetTarget word)
  | .memoryWrite =>
    (Matches "FX33" word ∧ machine.SpanOutside 3) ∨
      ((Matches "FX55" word ∨ Matches "FX65" word) ∧ machine.SpanOutside ((x word).val + 1))
  | .ok | .unassigned _ _ => False

variable {machine : Machine} {word : UInt16} {status : Status}

theorem spanWritable_eq_false_iff (machine : Machine) {length : Nat} (short : length ≤ 0x10000) :
    machine.spanWritable length = false ↔ machine.SpanOutside length := by
  rw [← Bool.not_eq_true, spanWritable_iff short, SpanOutside]
  simp only [programStart, memorySize]
  omega

/-- Only the last address is unfit for an instruction. -/
theorem opcode_eq_and_lt_address_iff (word : UInt16) (digit : Nat) :
    (opcode word).val = digit ∧ lastInstruction < (address word).val ↔
      digit < 16 ∧ word.toNat = 4096 * digit + 0xFFF := by
  have digits := toNat_eq_digits word
  have address := address_val word
  simp only [lastInstruction, memorySize]
  omega

theorem jump_unfit_iff :
    Matches "1NNN" word ∧ lastInstruction < (address word).val ↔ word = 0x1FFF := by
  rw [← UInt16.toNat_inj]
  simpa [Matches] using opcode_eq_and_lt_address_iff word 1

theorem call_unfit_iff :
    Matches "2NNN" word ∧ lastInstruction < (address word).val ↔ word = 0x2FFF := by
  rw [← UInt16.toNat_inj]
  simpa [Matches] using opcode_eq_and_lt_address_iff word 2

theorem offsetRegister_address (variant : Variant) :
    offsetRegister variant (address word) = if variant.jumpByRegister then x word else 0 := by
  have address := address_val word
  apply Fin.ext
  cases jumps : variant.jumpByRegister with
  | true =>
    simp only [offsetRegister, jumps, if_true]
    omega
  | false => simp [offsetRegister, jumps]

theorem lt_offsetTarget_iff :
    lastInstruction < (address word).val +
        (machine.registers.get (offsetRegister machine.variant (address word))).toNat ↔
      0xFFE < machine.offsetTarget word := by
  rw [offsetRegister_address]
  rfl

theorem outcome_decode_eq_iff (unclean : status ≠ .ok) :
    machine.outcome (Instruction.decode word) = status ↔ machine.Raises word status := by
  cases status with
  | ok => exact absurd rfl unclean
  | noOp =>
    rw [outcome_eq_noOp_iff, Instruction.decode_eq_unknown_iff]
    rfl
  | inputHalt =>
    have released : machine.keypad.lowest? = none ↔ ∀ key, machine.keypad.get key = false :=
      Keypad.lowest?_eq_none_iff
    rw [outcome_eq_inputHalt_iff, released]
    simp [Raises, Instruction.decode_eq_iff, encodes_iff]
  | stackOverflow =>
    rw [outcome_eq_stackOverflow_iff]
    simp [Raises, Instruction.decode_eq_iff, encodes_iff, Stack.isFull]
  | invalidAddress =>
    rw [outcome_eq_invalidAddress_iff, Raises, ← jump_unfit_iff, ← call_unfit_iff]
    simp [Instruction.decode_eq_iff, encodes_iff, Stack.isFull, or_and_right, exists_or, and_assoc,
      lt_offsetTarget_iff]
    simp only [or_assoc, and_comm, and_left_comm]
  | memoryWrite =>
    have three := spanWritable_eq_false_iff machine (show 3 ≤ 0x10000 by decide)
    have bulk := spanWritable_eq_false_iff machine (show (x word).val + 1 ≤ 0x10000 by omega)
    rw [outcome_eq_memoryWrite_iff, Raises, ← three, ← bulk]
    simp [Instruction.decode_eq_iff, encodes_iff, or_and_right, exists_or, and_assoc]
  | unassigned value unnamed =>
    have small := outcome_code_le machine (Instruction.decode word)
    simp only [Raises, iff_false]
    intro same
    rw [same] at small
    exact absurd small (by simpa [Status.code] using unnamed)

theorem execute_status (machine : Machine) (word : UInt16) :
    (machine.execute word).status = machine.outcome (Instruction.decode word) :=
  perform_snd machine (Instruction.decode word)

theorem execute_of_outcome (unclean : machine.outcome (Instruction.decode word) ≠ .ok)
    (unhalted : machine.outcome (Instruction.decode word) ≠ .inputHalt) :
    machine.execute word =
      machine.reported (machine.outcome (Instruction.decode word)) word := by
  have unchanged : (machine.perform (Instruction.decode word)).1 = machine := by
    rcases (Status.isFatal_or_eq_noOp_iff unclean).mpr unhalted with failed | unknown
    · rw [← perform_snd] at failed
      exact perform_of_isFatal failed
    · rw [outcome_eq_noOp_iff.mp unknown]
      rfl
  rw [execute_eq, perform_snd, unchanged, if_neg unclean]

theorem execute_of_released (halts : machine.outcome (Instruction.decode word) = .inputHalt) :
    machine.execute word =
      { machine with
        waiting := true, waitRegister := UInt8.ofNat (x word), status := .inputHalt, fault := word } := by
  have waits := halts
  rw [outcome_eq_inputHalt_iff] at waits
  obtain ⟨⟨register, decoded⟩, released⟩ := waits
  have same : register = x word := by
    rw [Instruction.decode_eq_iff Instruction.noConfusion] at decoded
    cases decoded
    rfl
  rw [execute_eq, perform_snd, halts, decoded, perform_awaitKey_of_released released, same]
  rfl

/-- A word raises each status exactly under its condition and records itself with it. One that fails
changes nothing else, and one that waits for a key changes the gate only. -/
theorem execute_reports (machine : Machine) (word : UInt16) :
    (∀ status ≠ .ok, (machine.execute word).status = status ↔ machine.Raises word status) ∧
    ((machine.execute word).status = .ok ↔ ∀ status, ¬ machine.Raises word status) ∧
    (machine.execute word).fault =
      (if (machine.execute word).status = .ok then machine.fault else word) ∧
    ((machine.execute word).status ≠ .ok → (machine.execute word).status ≠ .inputHalt →
      machine.execute word =
        { machine with status := (machine.execute word).status, fault := word }) ∧
    ((machine.execute word).status = .inputHalt →
      machine.execute word =
        { machine with
          waiting := true, waitRegister := UInt8.ofNat (x word)
          status := .inputHalt, fault := word }) := by
  have status := execute_status machine word
  refine ⟨?_, ?_, ?_, ?_, ?_⟩
  · intro status' unclean
    rw [status]
    exact outcome_decode_eq_iff unclean
  · rw [status]
    constructor
    · intro clean status' raised
      cases status' with
      | ok => exact raised
      | _ =>
        rw [← outcome_decode_eq_iff (by simp), clean] at raised
        exact Status.noConfusion raised
    · intro none
      exact Decidable.byContradiction fun unclean =>
        none _ ((outcome_decode_eq_iff unclean).mp rfl)
  · rw [status, execute_eq, perform_snd]
    rfl
  · rw [status]
    exact execute_of_outcome
  · rw [status]
    exact execute_of_released

end Chip8.Machine
