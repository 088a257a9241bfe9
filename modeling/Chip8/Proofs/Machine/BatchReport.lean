import Chip8.Proofs.Condition
import Chip8.Proofs.Machine.Raises
import Chip8.Proofs.Machine.Run

/-!
What a batch tells its host. The report of a step that stops a batch can be checked against the
machine that the step leaves: `step_of_halted` for a key wait, `step_of_failed_inside` and
`step_of_failed_outside` for a failure. The main result carries this over to whole batches: what one
reports describes the last thing that happened in it, and a host can always read it.
-/

namespace Chip8

theorem Word.isSigned32_toInt (number : Int32) : Word.isSigned32 number.toInt = true := by
  have low := number.le_toInt
  have high := number.toInt_lt
  simp only [Word.isSigned32, decide_eq_true_eq]
  omega

namespace Condition

theorem registerField_of_le {register : UInt8} (small : register ≤ 15) :
    registerField ((0xF00A : UInt16) ||| (register.toUInt16 <<< 8)).toNat = register.toNat := by
  have all : ∀ x : Fin 16,
      registerField ((0xF00A : UInt16) ||| ((UInt8.ofNat x).toUInt16 <<< 8)).toNat = x.val := by
    decide
  have bound : register.toNat < 16 := by
    rw [UInt8.le_iff_toNat_le] at small
    exact Nat.lt_succ_of_le small
  simpa using all ⟨register.toNat, bound⟩

theorem eq_registerField_of_ofStatus {status : Status} {word register : Int}
    (given : ofStatus status.code.toNat word = .ok (some (.inputHalt register))) :
    status = .inputHalt ∧ register = registerField word := by
  have reported := statusOf_of_ofStatus given
  cases reported
  rw [ofStatus, assigned?_code] at given
  cases given
  exact ⟨rfl, rfl⟩

end Condition

namespace Machine

variable {machine : Machine} {word : UInt16} {status : Status} {steps : Nat}

theorem waitWord_toNat (machine : Machine) :
    machine.waitWord.toNat = (0xF00A ||| machine.waitRegister.toNat <<< 8) % 65536 := by
  have bound : machine.waitRegister.toNat <<< 8 < 65536 := by
    have small := machine.waitRegister.toNat_lt
    rw [Nat.shiftLeft_eq]
    omega
  have word : (0xF00A ||| machine.waitRegister.toNat <<< 8) < 65536 :=
    Nat.or_lt_two_pow (show 0xF00A < 2 ^ 16 by decide) bound
  rw [Nat.mod_eq_of_lt word]
  simp [waitWord, Nat.mod_eq_of_lt bound]

/-- Neither pc nor the report bears on what a word raises. -/
theorem Raises.reported_of_fetch (raised : machine.fetch.2.Raises word status) (status' : Status)
    (fault : UInt16) : (machine.reported status' fault).Raises word status := by
  cases status <;> exact raised

theorem step_cases_of_failed (failed : machine.step.status.isFatal = true) :
    (machine.pc.toNat ≤ lastInstruction ∧
      machine.fetch.2.outcome (Instruction.decode machine.nextWord) = machine.step.status ∧
      machine.step = machine.reported machine.step.status machine.nextWord) ∨
    (lastInstruction < machine.pc.toNat ∧
      machine.step = machine.reported .invalidAddress machine.pc) := by
  rcases step_cases machine with ⟨-, key, -, received⟩ | ⟨-, -, waits⟩ |
    ⟨instruction, -, sound, performed⟩ | ⟨instruction, fetched, -, failure⟩ | ⟨-, outside, stands⟩
  · rw [received] at failed
    exact Bool.noConfusion failed
  · rw [waits] at failed
    exact Bool.noConfusion failed
  · rw [performed] at failed
    exact absurd failed (by simp [sound])
  · obtain ⟨-, inside, rfl⟩ := fetched?_eq_some_iff.mp fetched
    have status : (machine.fetch.2.perform (Instruction.decode machine.nextWord)).2 =
        machine.step.status := by rw [failure, reported_status]
    rw [status] at failure
    exact .inl ⟨inside, (perform_snd _ _).symm.trans status, failure⟩
  · exact .inr ⟨outside, stands⟩

/-- A step that fails at an instruction records the word that still stands at pc, and the word still
raises the status. -/
theorem step_of_failed_inside (failed : machine.step.status.isFatal = true)
    (inside : machine.step.pc.toNat ≤ lastInstruction) :
    machine.step.fault = machine.step.nextWord ∧
      machine.step.Raises machine.step.fault machine.step.status := by
  rcases step_cases_of_failed failed with ⟨-, outcome, failure⟩ | ⟨outside, stands⟩
  · have raised := (outcome_decode_eq_iff (Status.ne_ok_of_isFatal failed)).mp outcome
    rw [failure]
    exact ⟨rfl, raised.reported_of_fetch _ _⟩
  · rw [stands] at inside
    exact absurd inside (Nat.not_le_of_lt outside)

theorem step_of_failed_outside (failed : machine.step.status.isFatal = true)
    (outside : lastInstruction < machine.step.pc.toNat) :
    machine.step.status = .invalidAddress ∧ machine.step.fault = machine.step.pc := by
  rcases step_cases_of_failed failed with ⟨inside, -, failure⟩ | ⟨-, stands⟩
  · rw [failure] at outside
    exact absurd inside (Nat.not_le_of_lt outside)
  · rw [stands]
    exact ⟨rfl, rfl⟩

theorem exists_of_lastUnknown? {stepped : Machine}
    (last : machine.lastUnknown? steps = some stepped) :
    ∃ i < steps, step^[i + 1] machine = stepped ∧ (step^[i] machine).fetched? = some .unknown ∧
      ∀ j, i < j → j < steps → (step^[j] machine).fetched? ≠ some .unknown := by
  induction steps with
  | zero => simp [lastUnknown?, trace] at last
  | succ steps ih =>
    rw [lastUnknown?_succ] at last
    split at last
    · rename_i unknown
      cases last
      rw [Function.iterate_succ_apply', step_status_eq_noOp_iff] at unknown
      refine ⟨steps, Nat.lt_succ_self steps, rfl, unknown, ?_⟩
      intro j after before
      omega
    · rename_i known
      rw [Function.iterate_succ_apply', step_status_eq_noOp_iff] at known
      obtain ⟨i, before, reached, unknown, none⟩ := ih last
      refine ⟨i, by omega, reached, unknown, ?_⟩
      intro j after small
      rcases Nat.lt_succ_iff_lt_or_eq.mp small with early | rfl
      · exact none j after early
      · exact known

theorem executeCycles_of_fits {cycles : Int} (fits : Word.isSigned32 cycles = true)
    (machine : Machine) :
    ∃ condition, (machine.run cycles).1.condition = .ok condition ∧
      machine.executeCycles cycles =
        .ok ⟨(machine.run cycles).1, (machine.run cycles).2, condition⟩ := by
  obtain ⟨condition, given⟩ :=
    Condition.exists_ofStatus (run_status_code_le machine cycles) (machine.run cycles).1.fault.toNat
  refine ⟨condition, given, ?_⟩
  rw [executeCycles, if_pos fits]
  exact HostError.bind_eq_ok_iff.mpr ⟨condition, given, rfl⟩

/-- What a host got is the report of the run. -/
theorem exists_of_executeCycles {cycles : Int} {report : BatchReport}
    (executed : machine.executeCycles cycles = .ok report) :
    ∃ condition, Condition.statusOf condition = some (machine.run cycles).1.status ∧
      report = ⟨(machine.run cycles).1, (machine.run cycles).2, condition⟩ := by
  have fits : Word.isSigned32 cycles = true := by
    cases fits : Word.isSigned32 cycles with
    | true => rfl
    | false =>
      rw [executeCycles, fits] at executed
      cases executed
  obtain ⟨condition, told, executed'⟩ := executeCycles_of_fits fits machine
  rw [executed] at executed'
  cases executed'
  exact ⟨condition, Condition.statusOf_of_ofStatus told, rfl⟩

/-- A batch that stopped ends as its last step does. -/
theorem run_eq_step_of_stopped {cycles : Int}
    (stopped : (machine.run cycles).1.status.consumed = false) :
    ∃ last : Machine, (machine.run cycles).1 = last.step := by
  rw [run_toNat] at stopped ⊢
  rcases completes_or_stops machine cycles.toNat with completes | ⟨steps, before, completes, stops⟩
  · have goes := run_status_consumed completes
    rw [stopped] at goes
    exact Bool.noConfusion goes
  · refine ⟨step^[steps] machine, ?_⟩
    rw [run_of_stopped completes before stops, Function.iterate_succ_apply']

theorem run_fault_of_ok {cycles : Int} (clean : (machine.run cycles).1.status = .ok) :
    (machine.run cycles).1.fault = machine.fault := by
  rw [run_toNat] at clean ⊢
  rcases completes_or_stops machine cycles.toNat with completes | ⟨steps, before, completes, stops⟩
  · have fault := iterate_step_fault completes
    have none : machine.lastUnknown? cycles.toNat = none := by
      rw [run_of_completes completes] at clean
      cases last : machine.lastUnknown? cycles.toNat with
      | none => rfl
      | some stepped => simp [completedStatus, last] at clean
    rw [none] at fault
    rw [run_of_completes completes]
    exact fault
  · rw [run_of_stopped completes before stops] at clean
    rw [clean] at stops
    exact Bool.noConfusion stops

theorem run_fault_of_noOp {cycles : Int} (unknown : (machine.run cycles).1.status = .noOp) :
    ∃ i < (machine.run cycles).2, (step^[i] machine).fetched? = some .unknown ∧
      (step^[i] machine).nextWord = (machine.run cycles).1.fault ∧
      ∀ j, i < j → j < (machine.run cycles).2 → (step^[j] machine).fetched? ≠ some .unknown := by
  rw [run_toNat] at unknown ⊢
  rcases completes_or_stops machine cycles.toNat with completes | ⟨steps, before, completes, stops⟩
  · have fault := iterate_step_fault completes
    rw [run_of_completes completes] at unknown ⊢
    obtain ⟨stepped, last⟩ := Option.isSome_iff_exists.mp (completedStatus_eq_noOp_iff.mp unknown)
    obtain ⟨i, small, reached, fetched, none⟩ := exists_of_lastUnknown? last
    refine ⟨i, small, fetched, ?_, none⟩
    rw [last, Option.map_some, Option.getD_some, ← reached, Function.iterate_succ_apply',
      step_of_unknown fetched] at fault
    exact fault.symm
  · rw [run_of_stopped completes before stops] at unknown
    rw [unknown] at stops
    exact Bool.noConfusion stops

theorem run_of_halted {cycles : Int} (halts : (machine.run cycles).1.status = .inputHalt) :
    (machine.run cycles).1.waiting = true ∧ (machine.run cycles).1.keypad.lowest? = none ∧
      (machine.run cycles).1.fault = (machine.run cycles).1.waitWord := by
  obtain ⟨last, reached⟩ := run_eq_step_of_stopped (Status.consumed_eq_false_iff.mpr (.inl halts))
  rw [reached] at halts ⊢
  exact step_of_halted halts

theorem run_of_failed_inside {cycles : Int} (failed : (machine.run cycles).1.status.isFatal = true)
    (inside : (machine.run cycles).1.pc.toNat ≤ lastInstruction) :
    (machine.run cycles).1.fault = (machine.run cycles).1.nextWord ∧
      (machine.run cycles).1.Raises (machine.run cycles).1.fault (machine.run cycles).1.status := by
  obtain ⟨last, reached⟩ := run_eq_step_of_stopped (Status.consumed_eq_false_iff.mpr (.inr failed))
  rw [reached] at failed inside ⊢
  exact step_of_failed_inside failed inside

theorem run_of_failed_outside {cycles : Int} (failed : (machine.run cycles).1.status.isFatal = true)
    (outside : lastInstruction < (machine.run cycles).1.pc.toNat) :
    (machine.run cycles).1.status = .invalidAddress ∧
      (machine.run cycles).1.fault = (machine.run cycles).1.pc := by
  obtain ⟨last, reached⟩ := run_eq_step_of_stopped (Status.consumed_eq_false_iff.mpr (.inr failed))
  rw [reached] at failed outside ⊢
  exact step_of_failed_outside failed outside

/-- What a batch reports is true of the machine it leaves, or of the instructions it executed. -/
theorem run_report_truthful (machine : Machine) (cycles : Int32) :
    let ended := (machine.run cycles.toInt).1
    let executed := (machine.run cycles.toInt).2
    (ended.status = .ok → ended.fault = machine.fault) ∧
    (ended.status = .noOp →
      Instruction.decode ended.fault = .unknown ∧
      ∃ i < executed, (step^[i] machine).fetched? = some .unknown ∧
        (step^[i] machine).nextWord = ended.fault ∧
        ∀ j, i < j → j < executed → (step^[j] machine).fetched? ≠ some .unknown) ∧
    (ended.status = .inputHalt →
      ended.waiting = true ∧ (∀ key, ended.keypad.get key = false) ∧
      ended.fault.toNat = (0xF00A ||| ended.waitRegister.toNat <<< 8) % 65536) ∧
    (ended.status = .stackOverflow ∨ ended.status = .memoryWrite ∨
        (ended.status = .invalidAddress ∧ ended.pc.toNat ≤ 0xFFE) →
      ∃ inside : ended.pc.toNat + 1 < 4096,
        ended.fault = Word.ofBytes ended.memory[ended.pc.toNat] ended.memory[ended.pc.toNat + 1] ∧
        ended.Raises ended.fault ended.status) ∧
    (ended.status = .invalidAddress → 0xFFE < ended.pc.toNat → ended.fault = ended.pc) ∧
    ended.status.code ≤ 5 ∧
    ∃ condition, machine.executeCycles cycles.toInt = .ok ⟨ended, executed, condition⟩ ∧
      Condition.statusOf condition = some ended.status ∧
      ∀ register, condition = some (.inputHalt register) → ended.waitRegister ≤ 15 →
        register = ended.waitRegister.toNat := by
  intro ended executed
  refine ⟨run_fault_of_ok, ?_, ?_, ?_, ?_, run_status_code_le machine cycles.toInt, ?_⟩
  · intro unknown
    obtain ⟨i, small, fetched, word, none⟩ := run_fault_of_noOp unknown
    refine ⟨?_, i, small, fetched, word, none⟩
    rw [← word]
    exact (fetched?_eq_some_iff.mp fetched).2.2
  · intro halts
    obtain ⟨waiting, released, word⟩ := run_of_halted halts
    rw [word]
    exact ⟨waiting, Keypad.lowest?_eq_none_iff.mp released, waitWord_toNat ended⟩
  · intro fails
    have failed : ended.status.isFatal = true := by
      rcases fails with status | status | ⟨status, -⟩ <;> rw [status] <;> rfl
    have inside : ended.pc.toNat ≤ 0xFFE := by
      by_contra far
      have status : ended.status = .invalidAddress :=
        (run_of_failed_outside failed (Nat.lt_of_not_le far)).1
      simp only [status, reduceCtorEq, false_or, true_and] at fails
      exact far fails
    obtain ⟨word, raised⟩ := run_of_failed_inside failed inside
    refine ⟨Nat.lt_succ_of_le (Nat.succ_le_succ inside), ?_, raised⟩
    rw [← nextWord_of_inside]
    exact word
  · intro status far
    have failed : ended.status.isFatal = true := by rw [status]; rfl
    exact (run_of_failed_outside failed far).2
  · obtain ⟨condition, told, given⟩ :=
      executeCycles_of_fits (Word.isSigned32_toInt cycles) machine
    refine ⟨condition, given, Condition.statusOf_of_ofStatus told, ?_⟩
    intro register named small
    rw [named] at told
    obtain ⟨halts, field⟩ := Condition.eq_registerField_of_ofStatus told
    have word : ended.fault = ended.waitWord := (run_of_halted halts).2.2
    calc
      register = Condition.registerField ended.fault.toNat := field
      _ = ended.waitRegister.toNat := by
        rw [word]
        exact Condition.registerField_of_le small

end Machine

end Chip8
