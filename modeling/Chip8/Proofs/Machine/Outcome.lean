import Chip8.Proofs.Instruction
import Chip8.Proofs.Machine.Step

/-!
The status of an instruction, told from the machine before it. `step_step_of_stopped` is what rests
on it: a step that stopped a batch, by a key wait or by a failure, is repeated by the next step.
-/

namespace Chip8.Machine

def outcome (machine : Machine) : Instruction → Status
  | .unknown => .noOp
  | .jump target => if target ≤ lastInstruction then .ok else .invalidAddress
  | .call target =>
    if machine.stack.isFull then .stackOverflow
    else if target ≤ lastInstruction then .ok
    else .invalidAddress
  | .jumpOffset target =>
    let offset := machine.registers.get (offsetRegister machine.variant target)
    if target + offset.toNat ≤ lastInstruction then .ok else .invalidAddress
  | .awaitKey _ => if machine.keypad.lowest?.isSome then .ok else .inputHalt
  | .storeDecimal _ => if machine.spanWritable 3 then .ok else .memoryWrite
  | .storeRegisters x | .loadRegisters x =>
    if machine.spanWritable (x + 1 : Nat) then .ok else .memoryWrite
  | _ => .ok

variable {machine : Machine} {instruction : Instruction}

theorem jumpTo_snd (target : Nat) :
    (machine.jumpTo target).2 = if target ≤ lastInstruction then .ok else .invalidAddress := by
  unfold jumpTo
  split <;> rfl

theorem call_snd (target : Nat) :
    (machine.call target).2 =
      if machine.stack.isFull then .stackOverflow
      else if target ≤ lastInstruction then .ok
      else .invalidAddress := by
  unfold call
  split
  · rfl
  · split <;> rfl

theorem guardSpan_snd (length : Nat) (action : Machine → Machine) :
    (machine.guardSpan length action).2 =
      if machine.spanWritable length then .ok else .memoryWrite := by
  unfold guardSpan
  split <;> rfl

theorem awaitKey_snd (x : Register) :
    (machine.awaitKey x).2 = if machine.keypad.lowest?.isSome then .ok else .inputHalt := by
  unfold awaitKey
  cases machine.keypad.lowest? <;> rfl

theorem perform_snd (machine : Machine) (instruction : Instruction) :
    (machine.perform instruction).2 = machine.outcome instruction := by
  cases instruction with
  | jump target => exact jumpTo_snd target
  | call target => exact call_snd target
  | jumpOffset target => exact jumpTo_snd _
  | awaitKey x => exact awaitKey_snd x
  | storeDecimal x => exact guardSpan_snd 3 _
  | storeRegisters x => exact guardSpan_snd (x + 1) _
  | loadRegisters x => exact guardSpan_snd (x + 1) _
  | _ => rfl

theorem outcome_eq_noOp_iff : machine.outcome instruction = .noOp ↔ instruction = .unknown := by
  cases instruction <;> grind [outcome]

theorem outcome_eq_inputHalt_iff :
    machine.outcome instruction = .inputHalt ↔
      (∃ x, instruction = .awaitKey x) ∧ machine.keypad.lowest? = none := by
  cases instruction with
  | awaitKey x => cases held : machine.keypad.lowest? <;> simp [outcome, held]
  | _ => grind [outcome]

theorem outcome_eq_stackOverflow_iff :
    machine.outcome instruction = .stackOverflow ↔
      (∃ target, instruction = .call target) ∧ machine.stack.isFull = true := by
  cases instruction <;> grind [outcome]

theorem outcome_eq_invalidAddress_iff :
    machine.outcome instruction = .invalidAddress ↔
      (∃ target : Address, (instruction = .jump target ∨
        (instruction = .call target ∧ machine.stack.isFull = false)) ∧ lastInstruction < target) ∨
      ∃ target, instruction = .jumpOffset target ∧ lastInstruction <
        target + (machine.registers.get (offsetRegister machine.variant target)).toNat := by
  cases instruction <;> grind [outcome]

theorem outcome_eq_memoryWrite_iff :
    machine.outcome instruction = .memoryWrite ↔
      ((∃ x, instruction = .storeDecimal x) ∧ machine.spanWritable 3 = false) ∨
      ∃ x, (instruction = .storeRegisters x ∨ instruction = .loadRegisters x) ∧
        machine.spanWritable (x + 1 : Nat) = false := by
  cases instruction <;> grind [outcome]

theorem outcome_code_le (machine : Machine) (instruction : Instruction) :
    (machine.outcome instruction).code ≤ 5 := by
  cases instruction <;> grind [outcome, Status.code]

theorem perform_awaitKey_of_released {x : Register} (released : machine.keypad.lowest? = none) :
    (machine.perform (.awaitKey x)).1 =
      { machine with waiting := true, waitRegister := UInt8.ofNat x } := by
  simp only [perform, awaitKey, released]

theorem perform_awaitKey_of_held {x : Register} {key : Fin 16}
    (held : machine.keypad.lowest? = some key) :
    (machine.perform (.awaitKey x)).1 =
      { machine.setRegister x (UInt8.ofNat key) with
        waiting := false, waitRegister := UInt8.ofNat x } := by
  have register : (UInt8.ofNat x.val).toNat = x.val :=
    Nat.mod_eq_of_lt (show x.val < 2 ^ 8 by omega)
  simp only [perform, awaitKey, held, receiveKey, register, Table.write_of_lt _ _ x.isLt]
  rfl

theorem step_of_awaitKey_of_released {x : Register} (fetched : machine.fetched? = some (.awaitKey x))
    (released : machine.keypad.lowest? = none) :
    machine.step =
      { machine with
        pc := machine.pc + 2, waiting := true, waitRegister := UInt8.ofNat x
        status := .inputHalt, fault := machine.nextWord } := by
  have halts : (machine.fetch.2.perform (.awaitKey x)).2 = .inputHalt := by
    rw [perform_snd, outcome_eq_inputHalt_iff]
    exact ⟨⟨x, rfl⟩, released⟩
  have waits : (machine.fetch.2.perform (.awaitKey x)).1 = _ :=
    perform_awaitKey_of_released released
  rw [step_of_sound fetched (by rw [halts]; rfl), halts, waits]
  rfl

theorem step_of_awaitKey_of_held {x : Register} {key : Fin 16}
    (fetched : machine.fetched? = some (.awaitKey x)) (held : machine.keypad.lowest? = some key) :
    machine.step =
      { machine.setRegister x (UInt8.ofNat key) with
        pc := machine.pc + 2, waiting := false, waitRegister := UInt8.ofNat x, status := .ok } := by
  have held' : machine.fetch.2.keypad.lowest? = some key := held
  have clean : (machine.fetch.2.perform (.awaitKey x)).2 = .ok := by
    rw [perform_snd, outcome, held']
    rfl
  rw [step_of_sound fetched (by rw [clean]; rfl), clean, perform_awaitKey_of_held held']
  rfl

theorem step_status_code_le (machine : Machine) : machine.step.status.code ≤ 5 := by
  rcases step_cases machine with ⟨-, key, -, received⟩ | ⟨-, -, waits⟩ |
    ⟨instruction, -, -, performed⟩ | ⟨instruction, -, -, failure⟩ | ⟨-, -, outside⟩
  · rw [received, reported_status]
    decide
  · rw [waits, reported_status]
    decide
  · rw [performed, reported_status, perform_snd]
    exact outcome_code_le _ _
  · rw [failure, reported_status, perform_snd]
    exact outcome_code_le _ _
  · rw [outside, reported_status]
    decide

/-- A step reports an unknown instruction exactly when it performs one. -/
theorem step_status_eq_noOp_iff :
    machine.step.status = .noOp ↔ machine.fetched? = some .unknown := by
  constructor
  · intro unclear
    rcases step_cases machine with ⟨-, key, -, received⟩ | ⟨-, -, waits⟩ |
      ⟨instruction, fetched, -, performed⟩ | ⟨instruction, -, failed, failure⟩ | ⟨-, -, outside⟩
    · rw [received] at unclear
      exact Status.noConfusion unclear
    · rw [waits] at unclear
      exact Status.noConfusion unclear
    · have status : (machine.fetch.2.perform instruction).2 = .noOp := by
        rw [performed] at unclear
        exact unclear
      rw [perform_snd, outcome_eq_noOp_iff] at status
      rw [fetched, status]
    · rw [failure] at unclear
      change (machine.fetch.2.perform instruction).2 = .noOp at unclear
      rw [unclear] at failed
      exact Bool.noConfusion failed
    · rw [outside] at unclear
      exact Status.noConfusion unclear
  · intro fetched
    rw [step_of_unknown fetched, reported_status]

theorem step_step_of_reported {status : Status} {fault : UInt16}
    (same : machine.step = machine.reported status fault) (unclean : status ≠ .ok) :
    machine.step.step = machine.step := by
  have unclean' : machine.step.status ≠ .ok := by
    rw [same]
    exact unclean
  calc
    _ = (machine.reported status fault).step := by rw [same]
    _ = machine.step := by rw [step_reported, if_neg unclean']

/-- A wait that starts now is recorded as the wait that goes on later. -/
theorem waitWord_of_fetched? {x : Register} (fetched : machine.fetched? = some (.awaitKey x)) :
    { machine with waitRegister := UInt8.ofNat x }.waitWord = machine.nextWord := by
  obtain ⟨-, -, decoded⟩ := fetched?_eq_some_iff.mp fetched
  have value := Instruction.decode_eq_awaitKey_iff.mp decoded
  have place : ∀ x : Fin 16,
      ((0xF00A : UInt16) ||| ((UInt8.ofNat x).toUInt16 <<< 8)).toNat = 0xF00A + 256 * x.val := by
    decide
  apply UInt16.toNat_inj.mp
  rw [value]
  exact place x

/-- A step that ends in a key wait leaves the machine at the gate: no key is held, and the record
names the register. -/
theorem step_of_halted (halts : machine.step.status = .inputHalt) :
    machine.step.waiting = true ∧ machine.step.keypad.lowest? = none ∧
      machine.step.fault = machine.step.waitWord := by
  rcases step_cases machine with ⟨-, key, -, received⟩ | ⟨waiting, released, waits⟩ |
    ⟨instruction, fetched, -, performed⟩ | ⟨instruction, -, failed, failure⟩ | ⟨-, -, stands⟩
  · rw [received] at halts
    exact Status.noConfusion halts
  · rw [waits]
    exact ⟨waiting, released, rfl⟩
  · have status : (machine.fetch.2.perform instruction).2 = .inputHalt := by
      rw [performed] at halts
      exact halts
    have waits := status
    rw [perform_snd, outcome_eq_inputHalt_iff] at waits
    obtain ⟨⟨x, rfl⟩, released⟩ := waits
    rw [status, if_neg (by decide), perform_awaitKey_of_released released] at performed
    rw [performed]
    exact ⟨rfl, released, (waitWord_of_fetched? fetched).symm⟩
  · rw [failure, reported_status] at halts
    rw [halts] at failed
    exact Bool.noConfusion failed
  · rw [stands] at halts
    exact Status.noConfusion halts

/-- A step that stopped a batch is repeated by the next step, report and all. -/
theorem step_step_of_stopped (stopped : machine.step.status.consumed = false) :
    machine.step.step = machine.step := by
  rcases Status.consumed_eq_false_iff.mp stopped with halts | failed
  -- pc is past the instruction by now: the next step does not fetch it again, it polls the gate.
  · obtain ⟨waiting, released, word⟩ := step_of_halted halts
    rw [step_of_released waiting released, ← word, ← halts, reported_self]
  · exact step_step_of_reported (step_eq_reported_of_isFatal failed) (Status.ne_ok_of_isFatal failed)

end Chip8.Machine
