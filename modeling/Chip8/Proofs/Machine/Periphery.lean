import Chip8.Machine.Step

/-!
What stands beside the processor of a machine: the timers, the keypad, the random key, the variant
and the report. Few instructions look at any of it, and `Overlooks` lists what each of them takes from
there. An instruction that takes the same from two peripheries does the same with both
(`perform_fitted`), and only three instructions change theirs (`Periphery.updated`).
-/

namespace Chip8

structure Periphery where
  rng : RandomKey
  delayTimer : UInt8
  soundTimer : UInt8
  keypad : Keypad
  variant : Variant
  status : Status
  fault : UInt16

def Instruction.readsKeys : Instruction → Bool
  | skipIfKey _ | skipUnlessKey _ | awaitKey _ => true
  | _ => false

namespace Periphery

def updated (periphery : Periphery) (machine : Machine) : Instruction → Periphery
  | .setDelay x => { periphery with delayTimer := machine.registers.get x }
  | .setSound x => { periphery with soundTimer := machine.registers.get x }
  | .random _ _ => { periphery with rng := periphery.rng.next }
  | _ => periphery

theorem updated_report (periphery : Periphery) (machine : Machine) (status : Status)
    (fault : UInt16) (instruction : Instruction) :
    { periphery with status, fault }.updated machine instruction =
      { periphery.updated machine instruction with status, fault } := by
  cases instruction <;> rfl

theorem updated_keypad (periphery : Periphery) (machine : Machine) (instruction : Instruction) :
    (periphery.updated machine instruction).keypad = periphery.keypad := by
  cases instruction <;> rfl

end Periphery

namespace Machine

def periphery (machine : Machine) : Periphery where
  rng := machine.rng
  delayTimer := machine.delayTimer
  soundTimer := machine.soundTimer
  keypad := machine.keypad
  variant := machine.variant
  status := machine.status
  fault := machine.fault

def fitted (machine : Machine) (other : Periphery) : Machine :=
  { machine with
    rng := other.rng, delayTimer := other.delayTimer, soundTimer := other.soundTimer
    keypad := other.keypad, variant := other.variant, status := other.status, fault := other.fault }

/-- An instruction takes the same from another periphery as from that of the machine. -/
def Overlooks (machine : Machine) (other : Periphery) : Instruction → Prop
  | .random _ _ => other.rng = machine.rng
  | .readDelay _ => other.delayTimer = machine.delayTimer
  | .awaitKey _ => other.keypad.lowest? = machine.keypad.lowest?
  | .skipIfKey x | .skipUnlessKey x =>
    other.keypad.isHeld (machine.registers.get x).toNat =
      machine.keypad.isHeld (machine.registers.get x).toNat
  | .alu operation x y =>
    (machine.fitted other).aluOperands operation x y = machine.aluOperands operation x y
  | .jumpOffset target =>
    machine.registers.get (offsetRegister other.variant target) =
      machine.registers.get (offsetRegister machine.variant target)
  | .storeRegisters x | .loadRegisters x =>
    machine.spanWritable (x + 1 : Nat) = true →
      other.variant.advanceIndex = machine.variant.advanceIndex
  | _ => True

variable (machine : Machine) (other : Periphery)

@[simp] theorem fitted_periphery : machine.fitted machine.periphery = machine := rfl

@[simp] theorem fitted_registers : (machine.fitted other).registers = machine.registers := rfl

theorem jumpTo_fitted (target : Nat) :
    (machine.fitted other).jumpTo target =
      ((machine.jumpTo target).1.fitted other, (machine.jumpTo target).2) := by
  unfold jumpTo
  split <;> rfl

theorem call_fitted (target : Nat) :
    (machine.fitted other).call target =
      ((machine.call target).1.fitted other, (machine.call target).2) := by
  by_cases full : machine.stack.isFull = true
  · simp [call, fitted, full]
  · by_cases fits : target ≤ lastInstruction <;> simp [call, fitted, full, fits]

theorem returnFromCall_fitted :
    (machine.fitted other).returnFromCall = machine.returnFromCall.fitted other := by
  by_cases empty : machine.stack.isEmpty = true <;> simp [returnFromCall, fitted, empty]

theorem skipIf_fitted (condition : Bool) :
    (machine.fitted other).skipIf condition = (machine.skipIf condition).fitted other := by
  cases condition <;> rfl

theorem drawSprite_fitted (x y height : Int) :
    (machine.fitted other).drawSprite x y height = (machine.drawSprite x y height).fitted other := by
  unfold drawSprite
  split <;> rfl

variable {other}

theorem arithmetic_fitted {operation : Alu.Operation} {x y : Register}
    (same : (machine.fitted other).aluOperands operation x y = machine.aluOperands operation x y) :
    (machine.fitted other).arithmetic operation x y =
      (machine.arithmetic operation x y).fitted other := by
  simp only [arithmetic, same]
  split <;> rfl

theorem advanceIndex_fitted (same : other.variant.advanceIndex = machine.variant.advanceIndex)
    (x : Register) :
    (machine.fitted other).advanceIndex x = (machine.advanceIndex x).fitted other := by
  by_cases advances : machine.variant.advanceIndex = true <;>
    simp [advanceIndex, fitted, same, advances]

theorem storeRegisters_fitted (same : other.variant.advanceIndex = machine.variant.advanceIndex)
    (x : Register) :
    (machine.fitted other).storeRegisters x = (machine.storeRegisters x).fitted other :=
  advanceIndex_fitted (machine.storeAtIndex (machine.registers.toList.take (x + 1))) same x

theorem loadRegisters_fitted (same : other.variant.advanceIndex = machine.variant.advanceIndex)
    (x : Register) :
    (machine.fitted other).loadRegisters x = (machine.loadRegisters x).fitted other := by
  by_cases advances : machine.variant.advanceIndex = true <;>
    simp [loadRegisters, advanceIndex, fitted, same, advances]

variable {machine}

theorem guardSpan_fitted (length : Nat) {action : Machine → Machine}
    (keeps : machine.spanWritable length = true →
      action (machine.fitted other) = (action machine).fitted other) :
    (machine.fitted other).guardSpan length action =
      ((machine.guardSpan length action).1.fitted other, (machine.guardSpan length action).2) := by
  have same : (machine.fitted other).spanWritable length = machine.spanWritable length := rfl
  cases writable : machine.spanWritable length with
  | true => simp [guardSpan, same, writable, keeps writable]
  | false => simp [guardSpan, same, writable]

theorem awaitKey_fitted (same : other.keypad.lowest? = machine.keypad.lowest?) (x : Register) :
    (machine.fitted other).awaitKey x =
      ((machine.awaitKey x).1.fitted other, (machine.awaitKey x).2) := by
  have fitted : (machine.fitted other).keypad.lowest? = machine.keypad.lowest? := same
  cases held : machine.keypad.lowest? <;> simp only [awaitKey, fitted, held] <;> rfl

/-- An instruction does the same with a periphery in which it finds the same. -/
theorem perform_fitted {instruction : Instruction} (overlooks : machine.Overlooks other instruction) :
    (machine.fitted other).perform instruction =
      ((machine.perform instruction).1.fitted (other.updated machine instruction),
        (machine.perform instruction).2) := by
  cases instruction with
  | ret => exact congrArg (·, Status.ok) (returnFromCall_fitted machine other)
  | jump target => exact jumpTo_fitted machine other target
  | call target => exact call_fitted machine other target
  | jumpOffset target =>
    have same : (machine.fitted other).registers.get
        (offsetRegister (machine.fitted other).variant target) = _ := overlooks
    simp only [perform, same]
    exact jumpTo_fitted machine other _
  | skipIfByte x value => exact congrArg (·, Status.ok) (skipIf_fitted machine other _)
  | skipUnlessByte x value => exact congrArg (·, Status.ok) (skipIf_fitted machine other _)
  | skipIfEqual x y => exact congrArg (·, Status.ok) (skipIf_fitted machine other _)
  | skipUnlessEqual x y => exact congrArg (·, Status.ok) (skipIf_fitted machine other _)
  | skipIfKey x =>
    have same : (machine.fitted other).keypad.isHeld (machine.registers.get x).toNat = _ := overlooks
    simp only [perform, fitted_registers, same, skipIf_fitted]
    rfl
  | skipUnlessKey x =>
    have same : (machine.fitted other).keypad.isHeld (machine.registers.get x).toNat = _ := overlooks
    simp only [perform, fitted_registers, same, skipIf_fitted]
    rfl
  | alu operation x y => exact congrArg (·, Status.ok) (arithmetic_fitted machine overlooks)
  | draw x y height =>
    simp only [perform, fitted_registers, drawSprite_fitted]
    rfl
  | storeDecimal x =>
    simp only [perform]
    apply guardSpan_fitted
    intro _
    rfl
  | storeRegisters x =>
    simp only [perform]
    apply guardSpan_fitted
    intro writable
    exact storeRegisters_fitted machine (overlooks writable) x
  | loadRegisters x =>
    simp only [perform]
    apply guardSpan_fitted
    intro writable
    exact loadRegisters_fitted machine (overlooks writable) x
  | awaitKey x => exact awaitKey_fitted overlooks x
  | random x mask =>
    have same : other.rng = machine.rng := overlooks
    simp only [perform, fitted, Periphery.updated, same]
    rfl
  | readDelay x =>
    have same : (machine.fitted other).delayTimer = machine.delayTimer := overlooks
    simp only [perform, same]
    rfl
  | clearScreen => simp only [perform, fitted, Periphery.updated]
  | unknown => rfl
  | setByte x value => rfl
  | addByte x value => rfl
  | setIndex target => rfl
  | setDelay x => rfl
  | setSound x => rfl
  | addIndex x => rfl
  | pointAtGlyph x => rfl

theorem overlooks_of_read {instruction : Instruction}
    (rng : (∃ x mask, instruction = .random x mask) → other.rng = machine.rng)
    (delayTimer : (∃ x, instruction = .readDelay x) → other.delayTimer = machine.delayTimer)
    (keypad : instruction.readsKeys = true → other.keypad = machine.keypad)
    (variant : other.variant = machine.variant) : machine.Overlooks other instruction := by
  cases instruction with
  | random x mask => exact rng ⟨x, mask, rfl⟩
  | readDelay x => exact delayTimer ⟨x, rfl⟩
  | awaitKey x => exact congrArg Keypad.lowest? (keypad rfl)
  | skipIfKey x => exact congrArg (Keypad.isHeld · _) (keypad rfl)
  | skipUnlessKey x => exact congrArg (Keypad.isHeld · _) (keypad rfl)
  | alu operation x y => simp only [Overlooks, aluOperands, fitted, variant]
  | jumpOffset target => simp only [Overlooks, variant]
  | storeRegisters x => exact fun _ => congrArg Variant.advanceIndex variant
  | loadRegisters x => exact fun _ => congrArg Variant.advanceIndex variant
  | _ => trivial

/-- Nothing but these four parts of the periphery bears on an instruction. -/
theorem overlooks_of_eq (rng : other.rng = machine.rng)
    (delayTimer : other.delayTimer = machine.delayTimer) (keypad : other.keypad = machine.keypad)
    (variant : other.variant = machine.variant) (instruction : Instruction) :
    machine.Overlooks other instruction :=
  overlooks_of_read (fun _ => rng) (fun _ => delayTimer) (fun _ => keypad) variant

theorem perform_periphery (machine : Machine) (instruction : Instruction) :
    (machine.perform instruction).1.periphery = machine.periphery.updated machine instruction := by
  have overlooks : machine.Overlooks machine.periphery instruction :=
    overlooks_of_eq rfl rfl rfl rfl instruction
  have performed := perform_fitted overlooks
  rw [fitted_periphery] at performed
  exact congrArg (·.1.periphery) performed

end Machine

end Chip8
