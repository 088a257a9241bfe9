import Chip8.Proofs.InstructionSet
import Chip8.Proofs.Machine.Report

/-!
The register operations as equations between integers. The flagged ones write a byte and a bit which
together stand for the exact sum, difference or shifted byte, whichever registers they name: the
operands are read before anything is written, and where the result and the flag meet in VF the flag
wins. The others set VX and leave every flag alone.
-/

namespace Chip8.Machine

open Word

structure Sets (before : Machine) (target : Register) (result : UInt8) (after : Machine) :
    Prop where
  result : after.registers.get target = result
  kept : ∀ r ≠ target, after.registers.get r = before.registers.get r
  others : after = { before with registers := after.registers, status := .ok }

structure Flags (before : Machine) (target : Register) (law : Int → Int → Prop) (after : Machine) :
    Prop where
  balanced : ∃ (result : UInt8) (raised : Bool), law result.toNat raised.toNat ∧
    after.registers.get flagRegister = raised.toUInt8 ∧
    (target ≠ flagRegister → after.registers.get target = result)
  kept : ∀ r, r ≠ target → r ≠ flagRegister → after.registers.get r = before.registers.get r
  others : after = { before with registers := after.registers, status := .ok }

variable {machine : Machine} {word : UInt16} {operation : Alu.Operation} {a b result : UInt8}

theorem get_setRegister (machine : Machine) (target r : Register) (value : UInt8) :
    (machine.setRegister target value).registers.get r =
      if r = target then value else machine.registers.get r := by
  have entry : (machine.setRegister target value).registers.get r =
      if target.val = r.val then value else machine.registers[r.val] :=
    Vector.getElem_set target.isLt r.isLt
  simp only [entry, Fin.ext_iff, eq_comm]
  rfl

theorem aluOperands_of_plain (plain : operation.isShift = false) (first second : Register) :
    machine.aluOperands operation first second =
      (machine.registers.get first, machine.registers.get second) := by
  rw [aluOperands, plain]
  rfl

theorem aluOperands_of_shift (shift : operation.isShift = true) (first second : Register) :
    machine.aluOperands operation first second =
      (if machine.variant.shiftInPlace then machine.registers.get first
        else machine.registers.get second, machine.registers.get second) := by
  rw [aluOperands, shift]
  cases machine.variant.shiftInPlace <;> rfl

theorem execute_of_alu (encodes : Encodes word (.alu operation (x word) (y word))) :
    machine.execute word =
      (machine.arithmetic operation (x word) (y word)).reported .ok machine.fault := by
  rw [execute_eq, Instruction.decode_of_encodes encodes]
  rfl

theorem sets_execute (encodes : Encodes word (.alu operation (x word) (y word)))
    (operands : machine.aluOperands operation (x word) (y word) = (a, b))
    (evaluates : Alu.evaluate operation a b = (result, none)) :
    machine.Sets (x word) result (machine.execute word) := by
  have written : machine.arithmetic operation (x word) (y word) =
      machine.setRegister (x word) result := by
    simp only [arithmetic, operands, evaluates]
  rw [execute_of_alu encodes, written]
  constructor
  · rw [reported_registers, get_setRegister, if_pos rfl]
  · intro r other
    rw [reported_registers, get_setRegister, if_neg other]
  · rfl

theorem flags_execute {law : Int → Int → Prop} {raised : Bool}
    (encodes : Encodes word (.alu operation (x word) (y word)))
    (operands : machine.aluOperands operation (x word) (y word) = (a, b))
    (evaluates : Alu.evaluate operation a b = (result, some raised))
    (holds : law result.toNat raised.toNat) :
    machine.Flags (x word) law (machine.execute word) := by
  have written : machine.arithmetic operation (x word) (y word) =
      (machine.setRegister (x word) result).flag raised := by
    simp only [arithmetic, operands, evaluates]
  rw [execute_of_alu encodes, written]
  constructor
  · refine ⟨result, raised, holds, ?_, ?_⟩
    · rw [reported_registers, flag, get_setRegister, if_pos rfl]
    · intro apart
      rw [reported_registers, flag, get_setRegister, if_neg apart, get_setRegister, if_pos rfl]
  · intro r other unflagged
    rw [reported_registers, flag, get_setRegister, if_neg unflagged, get_setRegister, if_neg other]
  · rfl

/-- Every register operation obeys its law in the integers, whichever registers it names. -/
theorem arithmetic_exact (machine : Machine) (word : UInt16) :
    let a := machine.registers.get (x word)
    let b := machine.registers.get (y word)
    let source := if machine.variant.shiftInPlace then a else b
    let after := machine.execute word
    (Matches "8XY0" word → machine.Sets (x word) b after) ∧
    (Matches "8XY1" word → machine.Sets (x word) (a ||| b) after) ∧
    (Matches "8XY2" word → machine.Sets (x word) (a &&& b) after) ∧
    (Matches "8XY3" word → machine.Sets (x word) (a ^^^ b) after) ∧
    (Matches "8XY4" word →
      machine.Flags (x word) (fun r f => r + 256 * f = a.toNat + b.toNat) after) ∧
    (Matches "8XY5" word →
      machine.Flags (x word) (fun r f => r = a.toNat - b.toNat + 256 * (1 - f)) after) ∧
    (Matches "8XY6" word → machine.Flags (x word) (fun r f => source.toNat = 2 * r + f) after) ∧
    (Matches "8XY7" word →
      machine.Flags (x word) (fun r f => r = b.toNat - a.toNat + 256 * (1 - f)) after) ∧
    (Matches "8XYE" word →
      machine.Flags (x word) (fun r f => 2 * source.toNat = r + 256 * f) after) := by
  intro a b source after
  have plain {operation : Alu.Operation} (unshifted : operation.isShift = false) :
      machine.aluOperands operation (x word) (y word) = (a, b) := aluOperands_of_plain unshifted _ _
  have shift {operation : Alu.Operation} (shifts : operation.isShift = true) :
      machine.aluOperands operation (x word) (y word) = (source, b) := aluOperands_of_shift shifts _ _
  refine ⟨?_, ?_, ?_, ?_, ?_, ?_, ?_, ?_, ?_⟩
  · intro form
    exact sets_execute (.copy form) (plain rfl) rfl
  · intro form
    exact sets_execute (.or form) (plain rfl) rfl
  · intro form
    exact sets_execute (.and form) (plain rfl) rfl
  · intro form
    exact sets_execute (.xor form) (plain rfl) rfl
  · intro form
    have sum := Alu.add_toNat a b
    exact flags_execute (.add form) (plain rfl) rfl (by omega)
  · intro form
    have difference := Alu.sub_toNat a b
    exact flags_execute (.sub form) (plain rfl) rfl (by omega)
  · intro form
    have halves := Alu.shiftRight_toNat source
    exact flags_execute (.shiftRight form) (shift rfl) rfl (by omega)
  · intro form
    have difference := Alu.sub_toNat b a
    exact flags_execute (.subFrom form) (plain rfl) rfl (by omega)
  · intro form
    have double := Alu.shiftLeft_toNat source
    exact flags_execute (.shiftLeft form) (shift rfl) rfl (by omega)

/-- Where the sum would go to VF, the carry stands there. -/
example : (({ create ⟨0, 0⟩ {} with registers := Vector.replicate 16 200 } : Machine).execute
    0x8FF4).registers.get flagRegister = 1 := by
  decide

end Chip8.Machine
