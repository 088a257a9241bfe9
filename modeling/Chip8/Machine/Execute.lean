import Chip8.Instruction
import Chip8.Machine.Basic
import Chip8.Screen

/-!
What each instruction does. `perform` gives the machine after an instruction together with the
status of that instruction; an instruction with a fatal status changes nothing. `execute` also keeps
the status and the word in the machine.
-/

namespace Chip8.Machine

/-- Completes a wait with a key. A wait on a register that does not exist drops the key. -/
def receiveKey (machine : Machine) (key : Fin 16) : Machine :=
  { machine with
    registers := Table.write machine.registers machine.waitRegister.toNat (UInt8.ofNat key)
    waiting := false }

def setRegister (machine : Machine) (x : Register) (value : UInt8) : Machine :=
  { machine with registers := machine.registers.set x value }

def flag (machine : Machine) (raised : Bool) : Machine :=
  machine.setRegister flagRegister raised.toUInt8

def jumpTo (machine : Machine) (target : Nat) : Machine × Status :=
  if target ≤ lastInstruction then ({ machine with pc := UInt16.ofNat target }, .ok)
  else (machine, .invalidAddress)

/-- The full stack is noticed before an unfit target. -/
def call (machine : Machine) (target : Nat) : Machine × Status :=
  if machine.stack.isFull then (machine, .stackOverflow)
  else if target ≤ lastInstruction then
    ({ machine with stack := machine.stack.push machine.pc, pc := UInt16.ofNat target }, .ok)
  else (machine, .invalidAddress)

def returnFromCall (machine : Machine) : Machine :=
  if machine.stack.isEmpty then machine
  else
    let (address, stack) := machine.stack.pop
    { machine with stack, pc := address }

def skipIf (machine : Machine) (condition : Bool) : Machine :=
  if condition then { machine with pc := machine.pc + 2 } else machine

def aluOperands (machine : Machine) (operation : Alu.Operation) (x y : Register) : UInt8 × UInt8 :=
  if operation.isShift && !machine.variant.shiftInPlace then
    (machine.registers[y], machine.registers[y])
  else (machine.registers[x], machine.registers[y])

/-- The result is written before the flag, so in the flag register the flag wins. -/
def arithmetic (machine : Machine) (operation : Alu.Operation) (x y : Register) : Machine :=
  let (a, b) := machine.aluOperands operation x y
  let (result, raised?) := Alu.evaluate operation a b
  let written := machine.setRegister x result
  match raised? with
  | some raised => written.flag raised
  | none => written

def offsetRegister (variant : Variant) (target : Address) : Register :=
  ⟨if variant.jumpByRegister then target.val / 256 else 0, by split <;> omega⟩

/-- Draws a sprite from the memory at I. An origin past the right or bottom edge leaves the screen
and the flag as they are. -/
def drawSprite (machine : Machine) (x y height : Int) : Machine :=
  if Screen.onScreen x y then
    let strokes := Screen.spriteStrokes machine.memory machine.index x y height
    let (memory, collision) := Screen.draw machine.memory strokes
    { machine with memory }.flag collision
  else machine

/-- Whether a span of memory from I on lies in the program region. The end of the span is a machine
integer, so it wraps at 32 bits. -/
def spanWritable (machine : Machine) (length : Int) : Bool :=
  programStart ≤ machine.index.toNat ∧ (machine.index.toNat + length).bmod 0x100000000 ≤ memorySize

/-- No span that an instruction touches is long enough to wrap. -/
theorem spanWritable_iff {machine : Machine} {length : Nat} (short : length ≤ 0x10000) :
    machine.spanWritable length = true ↔
      programStart ≤ machine.index.toNat ∧ machine.index.toNat + length ≤ memorySize := by
  have bound := machine.index.toNat_lt
  have exact : ((machine.index.toNat : Int) + (length : Int)).bmod 0x100000000 =
      machine.index.toNat + length := by
    apply Int.bmod_eq_of_le_mul_two <;> omega
  simp only [spanWritable, exact, decide_eq_true_eq]
  omega

def guardSpan (machine : Machine) (length : Nat) (action : Machine → Machine) : Machine × Status :=
  if machine.spanWritable length then (action machine, .ok) else (machine, .memoryWrite)

def decimalDigits (value : UInt8) : List UInt8 := [value / 100, value / 10 % 10, value % 10]

def storeAtIndex (machine : Machine) (bytes : List UInt8) : Machine :=
  { machine with memory := Table.store machine.memory machine.index.toNat bytes }

def advanceIndex (machine : Machine) (x : Register) : Machine :=
  if machine.variant.advanceIndex then
    { machine with index := machine.index + UInt16.ofNat (x + 1) }
  else machine

def storeRegisters (machine : Machine) (x : Register) : Machine :=
  (machine.storeAtIndex (machine.registers.toList.take (x + 1))).advanceIndex x

def loadRegisters (machine : Machine) (x : Register) : Machine :=
  let loaded := Vector.ofFn fun i : Fin 16 =>
    if i ≤ x then Table.readOr machine.memory (machine.index.toNat + i.val) 0
    else machine.registers.get i
  { machine with registers := loaded }.advanceIndex x

def awaitKey (machine : Machine) (x : Register) : Machine × Status :=
  let waiting := { machine with waiting := true, waitRegister := UInt8.ofNat x }
  match machine.keypad.lowest? with
  | some key => (waiting.receiveKey key, .ok)
  | none => (waiting, .inputHalt)

def perform (machine : Machine) (instruction : Instruction) : Machine × Status :=
  let v := machine.registers.get
  match instruction with
  | .unknown => (machine, .noOp)
  | .clearScreen => ({ machine with memory := Screen.clear machine.memory }, .ok)
  | .ret => (machine.returnFromCall, .ok)
  | .jump target => machine.jumpTo target
  | .call target => machine.call target
  | .skipIfByte x value => (machine.skipIf (v x = value), .ok)
  | .skipUnlessByte x value => (machine.skipIf (v x ≠ value), .ok)
  | .skipIfEqual x y => (machine.skipIf (v x = v y), .ok)
  | .skipUnlessEqual x y => (machine.skipIf (v x ≠ v y), .ok)
  | .setByte x value => (machine.setRegister x value, .ok)
  | .addByte x value => (machine.setRegister x (v x + value), .ok)
  | .alu operation x y => (machine.arithmetic operation x y, .ok)
  | .setIndex target => ({ machine with index := UInt16.ofNat target }, .ok)
  | .jumpOffset target =>
    machine.jumpTo (target + (v (offsetRegister machine.variant target)).toNat)
  | .random x mask =>
    ({ machine.setRegister x (machine.rng.byte &&& mask) with rng := machine.rng.next }, .ok)
  | .draw x y height => (machine.drawSprite (v x).toNat (v y).toNat height.val, .ok)
  | .skipIfKey x => (machine.skipIf (machine.keypad.isHeld (v x).toNat), .ok)
  | .skipUnlessKey x => (machine.skipIf !machine.keypad.isHeld (v x).toNat, .ok)
  | .readDelay x => (machine.setRegister x machine.delayTimer, .ok)
  | .awaitKey x => machine.awaitKey x
  | .setDelay x => ({ machine with delayTimer := v x }, .ok)
  | .setSound x => ({ machine with soundTimer := v x }, .ok)
  | .addIndex x => ({ machine with index := machine.index + (v x).toUInt16 }, .ok)
  | .pointAtGlyph x =>
    ({ machine with index := UInt16.ofNat (glyphAddress ((v x).toNat % 16)) }, .ok)
  | .storeDecimal x => machine.guardSpan 3 fun m => m.storeAtIndex (decimalDigits m.registers[x])
  | .storeRegisters x => machine.guardSpan (x + 1) fun m => m.storeRegisters x
  | .loadRegisters x => machine.guardSpan (x + 1) fun m => m.loadRegisters x

/-- Performs the instruction that a word encodes. The status register describes this instruction
only, and any status but `ok` is recorded together with the word. -/
def execute (machine : Machine) (word : UInt16) : Machine :=
  let (performed, status) := machine.perform (Instruction.decode word)
  { performed with status, fault := if status = .ok then performed.fault else word }

theorem jumpTo_of_isFatal {machine : Machine} {target : Nat}
    (failed : (machine.jumpTo target).2.isFatal = true) : (machine.jumpTo target).1 = machine := by
  unfold jumpTo at failed ⊢
  split
  · rename_i fits
    simp [fits] at failed
  · rfl

theorem call_of_isFatal {machine : Machine} {target : Nat}
    (failed : (machine.call target).2.isFatal = true) : (machine.call target).1 = machine := by
  unfold call at failed ⊢
  split
  · rfl
  · split
    · rename_i room fits
      simp [room, fits] at failed
    · rfl

theorem guardSpan_of_isFatal {machine : Machine} {length : Nat} {action : Machine → Machine}
    (failed : (machine.guardSpan length action).2.isFatal = true) :
    (machine.guardSpan length action).1 = machine := by
  unfold guardSpan at failed ⊢
  split
  · rename_i writable
    simp [writable] at failed
  · rfl

theorem awaitKey_not_isFatal (machine : Machine) (x : Register) :
    (machine.awaitKey x).2.isFatal = false := by
  unfold awaitKey
  split <;> rfl

theorem perform_of_isFatal {machine : Machine} {instruction : Instruction}
    (failed : (machine.perform instruction).2.isFatal = true) :
    (machine.perform instruction).1 = machine := by
  cases instruction with
  | jump target => exact jumpTo_of_isFatal failed
  | jumpOffset target => exact jumpTo_of_isFatal failed
  | call target => exact call_of_isFatal failed
  | storeDecimal x => exact guardSpan_of_isFatal failed
  | storeRegisters x => exact guardSpan_of_isFatal failed
  | loadRegisters x => exact guardSpan_of_isFatal failed
  | unknown => rfl
  | awaitKey x => exact absurd failed (by simp [perform, awaitKey_not_isFatal])
  | _ => simp [perform] at failed

end Chip8.Machine
