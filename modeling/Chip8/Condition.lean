import Chip8.HostError
import Chip8.Status
import Chip8.Text.Number

/-!
What a machine reports to its host. `Condition.ofStatus` reads a status code together with the word
recorded for it: a clean status is no condition, and codes without a meaning are refused.
-/

namespace Chip8

inductive Condition where
  | unknownInstruction (word : Int)
  | inputHalt (register : Int)
  | stackOverflow (word : Int)
  | invalidAddress (word : Int)
  | memoryWrite (word : Int)
  | imageTooLarge (size capacity : Int)
  deriving DecidableEq, Repr

namespace Condition

def name : Condition → String
  | unknownInstruction _ => "NoOpInstruction"
  | inputHalt _ => "InputHalt"
  | stackOverflow _ => "StackOverflowError"
  | invalidAddress _ => "InvalidAddressError"
  | memoryWrite _ => "MemWriteError"
  | imageTooLarge _ _ => "LoadOverflowError"

/-- The status that a condition stands for; a refused image never reaches the status register. -/
def status? : Condition → Option Status
  | unknownInstruction _ => some .noOp
  | inputHalt _ => some .inputHalt
  | stackOverflow _ => some .stackOverflow
  | invalidAddress _ => some .invalidAddress
  | memoryWrite _ => some .memoryWrite
  | imageTooLarge _ _ => none

def isFatal (condition : Condition) : Bool := condition.status?.any Status.isFatal

def message : Condition → String
  | unknownInstruction word => s!"unknown instruction 0x{Text.hex 4 word} treated as no-op"
  | inputHalt register => s!"halted waiting for a key press into V{Text.hex 1 register}"
  | stackOverflow word => s!"stack overflow executing 0x{Text.hex 4 word}"
  | invalidAddress word => s!"invalid memory address reached by 0x{Text.hex 4 word}"
  | memoryWrite word => s!"cannot write into reserved memory address (0x{Text.hex 4 word})"
  | imageTooLarge size capacity => HostError.imageMessage size capacity

def registerField (word : Int) : Int := word / 256 % 16

def highByte (word : Int) : Int := word / 256 % 256

def lowByte (word : Int) : Int := word % 256

def ofStatus (code word : Int) : Except HostError (Option Condition) :=
  match Status.assigned? code with
  | some .ok => .ok none
  | some .noOp => .ok (some (unknownInstruction word))
  | some .inputHalt => .ok (some (inputHalt (registerField word)))
  | some .stackOverflow => .ok (some (stackOverflow word))
  | some .invalidAddress => .ok (some (invalidAddress word))
  | some .memoryWrite => .ok (some (memoryWrite word))
  | some (.unassigned _ _) => .error (.unknownStatus code)
  | none => .error (.unknownStatus code)

theorem name_eq_iff {condition other : Condition} :
    condition.name = other.name ↔ condition.ctorIdx = other.ctorIdx := by
  cases condition <;> cases other <;> simp [name, Condition.ctorIdx]

end Condition

end Chip8
