import Chip8.Machine.Step

/-!
Direct access for a host: single fields, spans of memory, the stack, the blitter and the status
register, without the checks that instructions make. Numbers come from outside, so each operation
says what it does with one that does not fit: counts it modulo the width of its field, or refuses
it.
-/

namespace Chip8.Machine

def requireInteger (number : Int) : Except HostError Int :=
  if Word.isSigned32 number then .ok number else .error (.outOfRange number)

def requireByte (number : Int) : Except HostError UInt8 :=
  if 0 ≤ number ∧ number < 0x100 then .ok (UInt8.ofInt number) else .error (.outOfRange number)

def requireWord (number : Int) : Except HostError UInt16 :=
  match Word.ofInt? number with
  | some word => .ok word
  | none => .error (.outOfRange number)

/-- The place that a register number means. A negative number first counts from the end. The place is
then the residue modulo 2^32 next to zero, and what it is taken of has at most 64 bits. -/
def registerPlace (position : Int) : Except HostError Int :=
  let counted := if position < 0 then position + 16 else position
  if -0x8000000000000000 ≤ counted ∧ counted < 0x10000000000000000 then
    .ok (counted.bmod 0x100000000)
  else .error (.outOfRange position)

theorem registerPlace_of_index {position : Int} (low : -16 ≤ position) (high : position < 16) :
    registerPlace position = .ok (if position < 0 then position + 16 else position) := by
  unfold registerPlace
  generalize counts : (if position < 0 then position + 16 else position) = counted
  have bounds : 0 ≤ counted ∧ counted < 16 := by
    rw [← counts]
    split <;> omega
  have near : counted.bmod 0x100000000 = counted := Int.bmod_eq_of_le (by omega) (by omega)
  have fits : -0x8000000000000000 ≤ counted ∧ counted < 0x10000000000000000 := by omega
  simp only [if_pos fits, near]

def setRegisterAt (machine : Machine) (position value : Int) : Except HostError Machine := do
  let place ← registerPlace position
  if 0 ≤ place then
    return { machine with registers := Table.write machine.registers place (UInt8.ofInt value) }
  else return machine

def setIndex (machine : Machine) (value : Int) : Machine :=
  { machine with index := UInt16.ofInt value }

def setPc (machine : Machine) (value : Int) : Machine := { machine with pc := UInt16.ofInt value }

def readMemory (machine : Machine) (address length : Int) : List UInt8 :=
  machine.memory.read address length

def writeMemory (machine : Machine) (address : Int) (bytes : List UInt8) :
    Except HostError Machine :=
  match machine.memory.write? address bytes with
  | some memory => .ok { machine with memory }
  | none => .error (.spanTooShort address bytes.length)

def push (machine : Machine) (address : Int) : Except HostError Machine := do
  let address ← requireWord address
  return { machine with stack := machine.stack.push address }

def pop (machine : Machine) : UInt16 × Machine :=
  let (address, stack) := machine.stack.pop
  (address, { machine with stack })

def drawAt (machine : Machine) (x y height : Int) : Except HostError Machine := do
  let x ← requireInteger x
  let y ← requireInteger y
  let height ← requireInteger height
  return machine.drawSprite x y height

def writable (machine : Machine) (length : Int) : Except HostError Bool := do
  let length ← requireInteger length
  return machine.spanWritable length

/-- Records an assigned status where `condition` holds. The code is looked at in any case. -/
def withStatus (machine : Machine) (code : Int) (condition : Bool) : Except HostError Machine :=
  match Status.assigned? code with
  | some status => .ok (if condition then { machine with status } else machine)
  | none => .error (.unknownStatus code)

structure Fields where
  pc : Option Int := none
  index : Option Int := none
  registers : Option (Vector Int 16) := none
  delayTimer : Option Int := none
  soundTimer : Option Int := none
  stackPointer : Option Int := none
  stackSlots : Option (Vector Int 16) := none
  heldKeys : Option (List Int) := none
  waiting : Option Bool := none
  waitRegister : Option Int := none
  status : Option Int := none
  fault : Option Int := none

def orKept {α β : Type} (given : Option α) (old : β) (require : α → Except HostError β) :
    Except HostError β :=
  match given with
  | some value => require value
  | none => .ok old

/-- Replaces the given fields, or none of them when one of the numbers does not fit its field. -/
def setFields (machine : Machine) (fields : Fields) : Except HostError Machine := do
  let pc ← orKept fields.pc machine.pc requireWord
  let index ← orKept fields.index machine.index requireWord
  let registers ← orKept fields.registers machine.registers (·.mapM requireByte)
  let delayTimer ← orKept fields.delayTimer machine.delayTimer requireByte
  let soundTimer ← orKept fields.soundTimer machine.soundTimer requireByte
  let pointer ← orKept fields.stackPointer machine.stack.pointer fun number =>
    (requireInteger number).map Int32.ofInt
  let slots ← orKept fields.stackSlots machine.stack.slots (·.mapM requireWord)
  let waitRegister ← orKept fields.waitRegister machine.waitRegister requireByte
  let status ← orKept fields.status machine.status fun code => (requireByte code).map Status.ofCode
  let fault ← orKept fields.fault machine.fault requireWord
  return { machine with
    pc, index, registers, delayTimer, soundTimer, waitRegister, status, fault
    stack := ⟨slots, pointer⟩
    keypad := (fields.heldKeys.map Keypad.ofHeld).getD machine.keypad
    waiting := fields.waiting.getD machine.waiting }

end Chip8.Machine
