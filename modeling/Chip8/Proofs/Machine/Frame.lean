import Chip8.Proofs.Machine.Report

/-!
What an instruction leaves alone. `Instruction.parts` lists the parts of a machine that an
instruction may change, and `perform_frame` says that it changes no other. The keypad and the variant
are the host's: no instruction changes them.
-/

namespace Chip8

/-- The parts of a machine that instructions work on. The gate is the pending wait for a key. -/
inductive Part where
  | memory
  | registers
  | index
  | pc
  | stack
  | delayTimer
  | soundTimer
  | gate
  | rng
  deriving DecidableEq

@[simp]
def Instruction.parts : Instruction → List Part
  | unknown => []
  | clearScreen => [.memory]
  | ret | call _ => [.stack, .pc]
  | jump _ | jumpOffset _ => [.pc]
  | skipIfByte _ _ | skipUnlessByte _ _ | skipIfEqual _ _ | skipUnlessEqual _ _ => [.pc]
  | skipIfKey _ | skipUnlessKey _ => [.pc]
  | setByte _ _ | addByte _ _ | alu _ _ _ | readDelay _ => [.registers]
  | setIndex _ | addIndex _ | pointAtGlyph _ => [.index]
  | random _ _ => [.registers, .rng]
  | draw _ _ _ => [.memory, .registers]
  | awaitKey _ => [.registers, .gate]
  | setDelay _ => [.delayTimer]
  | setSound _ => [.soundTimer]
  | storeDecimal _ => [.memory]
  | storeRegisters _ => [.memory, .index]
  | loadRegisters _ => [.registers, .index]

namespace Machine

structure Frame (parts : List Part) (before after : Machine) : Prop where
  memory : .memory ∉ parts → after.memory = before.memory
  registers : .registers ∉ parts → after.registers = before.registers
  index : .index ∉ parts → after.index = before.index
  pc : .pc ∉ parts → after.pc = before.pc
  stack : .stack ∉ parts → after.stack = before.stack
  delayTimer : .delayTimer ∉ parts → after.delayTimer = before.delayTimer
  soundTimer : .soundTimer ∉ parts → after.soundTimer = before.soundTimer
  waiting : .gate ∉ parts → after.waiting = before.waiting
  waitRegister : .gate ∉ parts → after.waitRegister = before.waitRegister
  rng : .rng ∉ parts → after.rng = before.rng
  keypad : after.keypad = before.keypad
  variant : after.variant = before.variant

variable (machine : Machine)

theorem Frame.refl (parts : List Part) : Frame parts machine machine := by
  constructor <;> intros <;> rfl

theorem frame_jumpTo (target : Nat) : Frame [.pc] machine (machine.jumpTo target).1 := by
  unfold jumpTo
  split
  · constructor <;> simp
  · exact Frame.refl machine _

theorem frame_call (target : Nat) : Frame [.stack, .pc] machine (machine.call target).1 := by
  unfold call
  split
  · exact Frame.refl machine _
  · split
    · constructor <;> simp
    · exact Frame.refl machine _

theorem frame_returnFromCall : Frame [.stack, .pc] machine machine.returnFromCall := by
  unfold returnFromCall
  split
  · exact Frame.refl machine _
  · constructor <;> simp

theorem frame_skipIf (condition : Bool) : Frame [.pc] machine (machine.skipIf condition) := by
  unfold skipIf
  split
  · constructor <;> simp
  · exact Frame.refl machine _

theorem frame_arithmetic (operation : Alu.Operation) (x y : Register) :
    Frame [.registers] machine (machine.arithmetic operation x y) := by
  simp only [arithmetic]
  split <;> constructor <;> simp [flag, setRegister]

theorem frame_drawSprite (x y height : Int) :
    Frame [.memory, .registers] machine (machine.drawSprite x y height) := by
  unfold drawSprite
  split
  · constructor <;> simp [flag, setRegister]
  · exact Frame.refl machine _

theorem frame_storeRegisters (x : Register) :
    Frame [.memory, .index] machine (machine.storeRegisters x) := by
  unfold storeRegisters advanceIndex
  split <;> constructor <;> simp [storeAtIndex]

theorem frame_loadRegisters (x : Register) :
    Frame [.registers, .index] machine (machine.loadRegisters x) := by
  simp only [loadRegisters, advanceIndex]
  split <;> constructor <;> simp

theorem frame_guardSpan {parts : List Part} (length : Nat) {action : Machine → Machine}
    (frame : Frame parts machine (action machine)) :
    Frame parts machine (machine.guardSpan length action).1 := by
  unfold guardSpan
  split
  · exact frame
  · exact Frame.refl machine _

theorem frame_awaitKey (x : Register) :
    Frame [.registers, .gate] machine (machine.awaitKey x).1 := by
  unfold awaitKey
  split <;> constructor <;> simp [receiveKey]

theorem perform_frame (instruction : Instruction) :
    Frame instruction.parts machine (machine.perform instruction).1 := by
  cases instruction with
  | unknown => exact Frame.refl machine _
  | ret => exact frame_returnFromCall machine
  | call target => exact frame_call machine target
  | jump target => exact frame_jumpTo machine target
  | jumpOffset target => exact frame_jumpTo machine _
  | skipIfByte x value => exact frame_skipIf machine _
  | skipUnlessByte x value => exact frame_skipIf machine _
  | skipIfEqual x y => exact frame_skipIf machine _
  | skipUnlessEqual x y => exact frame_skipIf machine _
  | skipIfKey x => exact frame_skipIf machine _
  | skipUnlessKey x => exact frame_skipIf machine _
  | alu operation x y => exact frame_arithmetic machine operation x y
  | draw x y height => exact frame_drawSprite machine _ _ _
  | storeRegisters x => exact frame_guardSpan machine _ (frame_storeRegisters machine x)
  | loadRegisters x => exact frame_guardSpan machine _ (frame_loadRegisters machine x)
  | awaitKey x => exact frame_awaitKey machine x
  | storeDecimal x =>
    apply frame_guardSpan
    constructor <;> simp [storeAtIndex]
  | _ => constructor <;> simp [perform, setRegister]

end Machine

end Chip8
