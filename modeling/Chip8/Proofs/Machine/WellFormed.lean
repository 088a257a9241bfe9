import Chip8.Proofs.Machine.Frame
import Chip8.Proofs.Machine.History
import Chip8.Proofs.Machine.Raises
import Chip8.Proofs.Stack

/-!
Well-formed machines. The stack pointer stays in the stack with nothing above it, the gate names a
register, and the status is an assigned one. Every request keeps this, so it holds of every machine
that a host can come to (`wellFormed_after`).
-/

namespace Chip8.Machine

/-- The stack is in order, the gate names a register, and the status is an assigned one, which is a
key wait only while the machine waits for a key. -/
structure WellFormed (machine : Machine) : Prop where
  stack : machine.stack.WellFormed
  waitRegister : machine.waitRegister ≤ 15
  status : machine.status.code ≤ 5
  halted : machine.status = .inputHalt → machine.waiting = true

variable {machine : Machine}

structure SameControl (before after : Machine) : Prop where
  stack : after.stack = before.stack
  waiting : after.waiting = before.waiting
  waitRegister : after.waitRegister = before.waitRegister

theorem Frame.sameControl {parts : List Part} {before after : Machine}
    (frame : Frame parts before after) (stack : .stack ∉ parts) (gate : .gate ∉ parts) :
    SameControl before after :=
  ⟨frame.stack stack, frame.waiting gate, frame.waitRegister gate⟩

/-- What an instruction does to the stack and the gate: it pushes on a stack with room, pops one in use,
starts a wait, or leaves both. -/
theorem perform_control (machine : Machine) (instruction : Instruction) :
    SameControl machine (machine.perform instruction).1 ∨
    (machine.stack.isFull = false ∧ ∃ pc, (machine.perform instruction).1 =
      { machine with stack := machine.stack.push machine.pc, pc }) ∨
    (machine.stack.isEmpty = false ∧ (machine.perform instruction).1 =
      { machine with stack := machine.stack.pop.2, pc := machine.stack.pop.1 }) ∨
    (∃ x, instruction = .awaitKey x) := by
  cases instruction with
  | ret =>
    cases used : machine.stack.isEmpty with
    | true =>
      simp only [perform, returnFromCall, used, if_true]
      exact .inl ⟨rfl, rfl, rfl⟩
    | false => simp [perform, returnFromCall, used]
  | call target =>
    cases room : machine.stack.isFull with
    | true =>
      simp only [perform, call, room, if_true]
      exact .inl ⟨rfl, rfl, rfl⟩
    | false =>
      by_cases fits : target.val ≤ lastInstruction
      · simp [perform, call, room, fits]
      · simp only [perform, call, room, fits]
        exact .inl ⟨rfl, rfl, rfl⟩
  | awaitKey x => exact .inr (.inr (.inr ⟨x, rfl⟩))
  | _ => exact .inl ((perform_frame machine _).sameControl (by simp) (by simp))

theorem perform_awaitKey_control (machine : Machine) (x : Register) :
    (machine.perform (.awaitKey x)).1.stack = machine.stack ∧
      (machine.perform (.awaitKey x)).1.waitRegister = UInt8.ofNat x := by
  simp only [perform, awaitKey]
  cases machine.keypad.lowest? <;> exact ⟨rfl, rfl⟩

theorem perform_stack_wellFormed (wellFormed : machine.stack.WellFormed)
    (instruction : Instruction) : (machine.perform instruction).1.stack.WellFormed := by
  rcases perform_control machine instruction with same | ⟨room, pc, pushed⟩ | ⟨used, popped⟩ |
    ⟨x, rfl⟩
  · rw [same.stack]
    exact wellFormed
  · rw [pushed]
    exact wellFormed.push room machine.pc
  · rw [popped]
    exact wellFormed.pop used
  · rw [(perform_awaitKey_control machine x).1]
    exact wellFormed

theorem WellFormed.perform_waitRegister (wellFormed : machine.WellFormed)
    (instruction : Instruction) : (machine.perform instruction).1.waitRegister ≤ 15 := by
  rcases perform_control machine instruction with same | ⟨-, pc, pushed⟩ | ⟨-, popped⟩ | ⟨x, rfl⟩
  · rw [same.waitRegister]
    exact wellFormed.waitRegister
  · rw [pushed]
    exact wellFormed.waitRegister
  · rw [popped]
    exact wellFormed.waitRegister
  · have small : ∀ x : Fin 16, UInt8.ofNat x ≤ 15 := by decide
    rw [(perform_awaitKey_control machine x).2]
    exact small x

theorem WellFormed.execute (wellFormed : machine.WellFormed) (word : UInt16) :
    (machine.execute word).WellFormed := by
  constructor
  · rw [execute_eq]
    exact perform_stack_wellFormed wellFormed.stack _
  · rw [execute_eq]
    exact wellFormed.perform_waitRegister _
  · rw [execute_status]
    exact outcome_code_le machine _
  · intro halts
    rw [execute_status] at halts
    rw [execute_of_released halts]

theorem WellFormed.reported (wellFormed : machine.WellFormed) (status : Status) (fault : UInt16)
    (assigned : status.code ≤ 5) (waits : status = .inputHalt → machine.waiting = true) :
    (machine.reported status fault).WellFormed where
  stack := wellFormed.stack
  waitRegister := wellFormed.waitRegister
  status := assigned
  halted := waits

theorem WellFormed.step (wellFormed : machine.WellFormed) : machine.step.WellFormed := by
  cases waiting : machine.waiting with
  | true =>
    cases held : machine.keypad.lowest? with
    | some key =>
      have clean : Status.ok.code ≤ 5 := by decide
      rw [step_of_held waiting held]
      exact ⟨wellFormed.stack, wellFormed.waitRegister, clean, Status.noConfusion⟩
    | none =>
      rw [step_of_released waiting held]
      exact wellFormed.reported .inputHalt machine.waitWord (by decide) (fun _ => waiting)
  | false =>
    by_cases inside : machine.pc.toNat ≤ lastInstruction
    · have fetched : machine.fetch.2.WellFormed :=
        ⟨wellFormed.stack, wellFormed.waitRegister, wellFormed.status, wellFormed.halted⟩
      -- A failed instruction only gets its pc back.
      have executed := fetched.execute machine.nextWord
      rw [step_of_inside waiting inside, restoreIfFatal]
      split
      · exact ⟨executed.stack, executed.waitRegister, executed.status, executed.halted⟩
      · exact executed
    · rw [step_of_outside waiting (by omega)]
      exact wellFormed.reported .invalidAddress machine.pc (by decide) (by simp)

theorem WellFormed.run (wellFormed : machine.WellFormed) (cycles : Int) :
    (machine.run cycles).1.WellFormed := by
  apply run_of_kept _ _ wellFormed
  · intro machine wellFormed
    exact wellFormed.step
  · rintro machine status fault (rfl | rfl) wellFormed
    · exact wellFormed.reported .ok fault (by decide) (by simp)
    · exact wellFormed.reported .noOp fault (by decide) (by simp)

theorem wellFormed_powerOn (rng : RandomKey) (keypad : Keypad) (variant : Variant) :
    (powerOn rng keypad variant).WellFormed :=
  ⟨Stack.wellFormed_empty, by simp [powerOn], by simp [powerOn, Status.code], by simp [powerOn]⟩

theorem WellFormed.serve (wellFormed : machine.WellFormed) (request : Request) :
    (machine.serve request).WellFormed := by
  have ⟨stack, waitRegister, status, halted⟩ := wellFormed
  cases request with
  | load image =>
    by_cases fits : image.length ≤ programCapacity
    · have fresh := wellFormed_powerOn machine.rng machine.keypad machine.variant
      rw [serve_load_of_le fits]
      exact ⟨fresh.stack, fresh.waitRegister, fresh.status, fresh.halted⟩
    · rw [serve_load_of_lt (Nat.lt_of_not_le fits)]
      exact wellFormed
  | reset => exact wellFormed_powerOn machine.rng machine.keypad machine.variant
  | execute word => exact wellFormed.execute word
  | step => exact wellFormed.step
  | run cycles => exact wellFormed.run cycles
  | press key => exact ⟨stack, waitRegister, status, halted⟩
  | release key => exact ⟨stack, waitRegister, status, halted⟩
  | tick => exact ⟨stack, waitRegister, status, halted⟩

/-- Every machine that a host can come to from power-on is well-formed. -/
theorem wellFormed_after (rng : RandomKey) (variant : Variant) (history : List Request) :
    ((create rng variant).after history).WellFormed := by
  apply after_of_kept
  · intro machine request _ wellFormed
    exact wellFormed.serve request
  · exact wellFormed_powerOn rng Keypad.released variant

end Chip8.Machine
