import Chip8.Proofs.Machine.Periphery

/-!
The status register and the recorded word are outputs: no instruction reads them. A machine whose
report was replaced performs, executes and steps as the old one does, up to the report.
-/

namespace Chip8

namespace Machine

def reported (machine : Machine) (status : Status) (fault : UInt16) : Machine :=
  { machine with status, fault }

variable (machine : Machine) (status : Status) (fault : UInt16)

@[simp] theorem reported_self : machine.reported machine.status machine.fault = machine := rfl

@[simp] theorem reported_reported (status' : Status) (fault' : UInt16) :
    (machine.reported status' fault').reported status fault = machine.reported status fault := rfl

@[simp] theorem reported_status : (machine.reported status fault).status = status := rfl

@[simp] theorem reported_fault : (machine.reported status fault).fault = fault := rfl

@[simp] theorem reported_registers : (machine.reported status fault).registers = machine.registers :=
  rfl

theorem fitted_report :
    machine.fitted { machine.periphery with status, fault } = machine.reported status fault := rfl

theorem perform_reported (instruction : Instruction) :
    (machine.reported status fault).perform instruction =
      ((machine.perform instruction).1.reported status fault,
        (machine.perform instruction).2) := by
  have overlooks : machine.Overlooks { machine.periphery with status, fault } instruction :=
    overlooks_of_eq rfl rfl rfl rfl instruction
  rw [← fitted_report, perform_fitted overlooks, Periphery.updated_report, ← perform_periphery,
    fitted_report]

theorem perform_fault (instruction : Instruction) :
    (machine.perform instruction).1.fault = machine.fault :=
  congrArg (·.1.fault) (perform_reported machine machine.status machine.fault instruction)

theorem execute_eq (word : UInt16) :
    machine.execute word =
      (machine.perform (Instruction.decode word)).1.reported
        (machine.perform (Instruction.decode word)).2
        (if (machine.perform (Instruction.decode word)).2 = .ok then machine.fault else word) := by
  rw [← perform_fault machine (Instruction.decode word)]
  rfl

end Machine

def Periphery.executed (periphery : Periphery) (machine : Machine) (word : UInt16) : Periphery :=
  { periphery.updated machine (Instruction.decode word) with
    status := (machine.execute word).status
    fault := if (machine.execute word).status = .ok then periphery.fault else word }

namespace Machine

theorem execute_fitted {machine : Machine} {other : Periphery} {word : UInt16}
    (overlooks : machine.Overlooks other (Instruction.decode word)) :
    (machine.fitted other).execute word =
      (machine.execute word).fitted (other.executed machine word) := by
  rw [execute_eq, perform_fitted overlooks, Periphery.executed, execute_eq machine]
  rfl

theorem execute_periphery (machine : Machine) (word : UInt16) :
    (machine.execute word).periphery = machine.periphery.executed machine word := by
  have overlooks : machine.Overlooks machine.periphery (Instruction.decode word) :=
    overlooks_of_eq rfl rfl rfl rfl _
  have executed := execute_fitted overlooks
  rw [fitted_periphery] at executed
  exact congrArg periphery executed

theorem execute_keypad (machine : Machine) (word : UInt16) :
    (machine.execute word).keypad = machine.keypad := by
  have executed := congrArg Periphery.keypad (execute_periphery machine word)
  exact executed.trans (Periphery.updated_keypad machine.periphery machine _)

end Machine

end Chip8
