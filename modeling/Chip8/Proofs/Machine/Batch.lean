import Chip8.Proofs.Machine.Outcome
import Mathlib.Logic.Function.Iterate

/-!
The loop of a batch beside the plain iteration of step. `Batch.advance_eq_iterate_pass` unrolls the
loop into single passes, and `Batch.Tracks` is what a batch keeps of the steps behind it: the loop
counts them, and it remembers the last unknown word, which is also the word on record.
-/

namespace Chip8.Machine

def trace (machine : Machine) (steps : Nat) : List Machine :=
  (List.range steps).map fun i => step^[i + 1] machine

def Completes (machine : Machine) (steps : Nat) : Prop :=
  ∀ stepped ∈ machine.trace steps, stepped.status.consumed = true

def lastUnknown? (machine : Machine) (steps : Nat) : Option Machine :=
  (machine.trace steps).reverse.find? fun stepped => stepped.status = .noOp

variable {machine : Machine} {steps : Nat}

theorem trace_succ (machine : Machine) (steps : Nat) :
    machine.trace (steps + 1) = machine.trace steps ++ [step^[steps + 1] machine] := by
  simp [trace, List.range_succ]

theorem completes_zero (machine : Machine) : machine.Completes 0 := by
  intro stepped member
  exact absurd member List.not_mem_nil

theorem completes_succ_iff :
    machine.Completes (steps + 1) ↔
      machine.Completes steps ∧ (step^[steps + 1] machine).status.consumed = true := by
  simp [Completes, trace_succ, or_imp, forall_and]

theorem Completes.mono {fewer : Nat} (completes : machine.Completes steps) (le : fewer ≤ steps) :
    machine.Completes fewer := by
  induction le with
  | refl => exact completes
  | step _ ih => exact ih (completes_succ_iff.mp completes).1

theorem lastUnknown?_succ (machine : Machine) (steps : Nat) :
    machine.lastUnknown? (steps + 1) =
      if (step^[steps + 1] machine).status = .noOp then some (step^[steps + 1] machine)
      else machine.lastUnknown? steps := by
  unfold lastUnknown?
  rw [trace_succ, List.reverse_append, List.reverse_singleton, List.singleton_append,
    List.find?_cons]
  by_cases unknown : (step^[steps + 1] machine).status = .noOp
  · simp only [unknown, decide_true, if_true]
  · simp only [unknown, decide_false, if_false]

theorem trace_add (machine : Machine) (first second : Nat) :
    machine.trace (first + second) = machine.trace first ++ (step^[first] machine).trace second := by
  simp only [trace, List.range_add, List.map_append, List.map_map]
  congr 1
  apply List.map_congr_left
  intro i _
  change step^[first + i + 1] machine = step^[i + 1] (step^[first] machine)
  rw [← Function.iterate_add_apply]
  exact congrArg (step^[·] machine) (by omega)

theorem completes_add_iff {first second : Nat} :
    machine.Completes (first + second) ↔
      machine.Completes first ∧ (step^[first] machine).Completes second := by
  simp [Completes, trace_add, or_imp, forall_and]

theorem lastUnknown?_add (machine : Machine) (first second : Nat) :
    machine.lastUnknown? (first + second) =
      ((step^[first] machine).lastUnknown? second).or (machine.lastUnknown? first) := by
  rw [lastUnknown?, trace_add, List.reverse_append, List.find?_append]
  rfl

theorem iterate_step_withStatus (machine : Machine) (status : Status) (steps : Nat) :
    step^[steps + 1] { machine with status } = step^[steps + 1] machine := by
  rw [Function.iterate_succ_apply, Function.iterate_succ_apply, step_withStatus]

namespace Batch

def goesOn (cycles : Int) (batch : Batch) : Bool :=
  batch.executed < cycles && batch.machine.status.consumed

theorem goesOn_eq_true_iff {cycles : Int} {batch : Batch} :
    batch.goesOn cycles = true ↔
      (batch.executed : Int) < cycles ∧ batch.machine.status.consumed = true := by
  simp [goesOn]

theorem goesOn_eq_false_iff {cycles : Int} {batch : Batch} :
    batch.goesOn cycles = false ↔
      (batch.machine.status.consumed = true → cycles ≤ batch.executed) := by
  rw [← Bool.not_eq_true, goesOn_eq_true_iff]
  grind

theorem advance_of_stopped {batch : Batch} (stopped : batch.machine.status.consumed = false)
    (cycles : Nat) : batch.advance cycles = batch := by
  cases cycles with
  | zero => rfl
  | succ cycles => simp [advance, stopped]

theorem advance_succ_of_consumed {batch : Batch} (goes : batch.machine.status.consumed = true)
    (cycles : Nat) : batch.advance (cycles + 1) = batch.pass.advance cycles := by
  rw [advance, if_pos goes]

theorem advance_add (batch : Batch) (first second : Nat) :
    batch.advance (first + second) = (batch.advance first).advance second := by
  induction first generalizing batch with
  | zero => rw [Nat.zero_add, advance]
  | succ first ih =>
    rw [Nat.succ_add]
    cases goes : batch.machine.status.consumed with
    | true => rw [advance_succ_of_consumed goes, advance_succ_of_consumed goes, ih]
    | false => rw [advance_of_stopped goes, advance_of_stopped goes, advance_of_stopped goes]

theorem pass_executed_of_consumed {batch : Batch}
    (goes : batch.machine.step.status.consumed = true) :
    batch.pass.executed = batch.executed + 1 :=
  if_pos goes

/-- The loop unrolled: a pass is made as long as the condition holds, and so at most once for each
cycle that was asked for. -/
theorem advance_eq_iterate_pass (batch : Batch) (cycles : Int) (rest : Nat)
    (left : batch.machine.status.consumed = true → batch.executed + rest = cycles.toNat) :
    ∃ passes ≤ rest, batch.advance rest = pass^[passes] batch ∧
      (∀ i < passes, (pass^[i] batch).goesOn cycles = true) ∧
      (pass^[passes] batch).goesOn cycles = false := by
  -- `left` ties the recursion of the loop to its own counter; a stopped batch needs no such tie.
  induction rest generalizing batch with
  | zero =>
    refine ⟨0, Nat.le_refl _, rfl, fun i small => absurd small (Nat.not_lt_zero i), ?_⟩
    rw [goesOn_eq_false_iff]
    intro goes
    have full := left goes
    simp only [Function.iterate_zero, id]
    omega
  | succ rest ih =>
    cases goes : batch.machine.status.consumed with
    | false =>
      refine ⟨0, Nat.zero_le _, advance_of_stopped goes _,
        fun i small => absurd small (Nat.not_lt_zero i), ?_⟩
      rw [goesOn_eq_false_iff]
      intro goes'
      exact absurd (goes.symm.trans goes') Bool.false_ne_true
    | true =>
      have room := left goes
      have left' (consumed : batch.pass.machine.status.consumed = true) :
          batch.pass.executed + rest = cycles.toNat := by
        rw [pass_executed_of_consumed consumed]
        omega
      obtain ⟨passes, few, unrolled, before, after⟩ := ih batch.pass left'
      refine ⟨passes + 1, by omega, ?_, ?_, after⟩
      · rw [advance_succ_of_consumed goes, unrolled, Function.iterate_succ_apply]
      · intro i small
        cases i with
        | zero =>
          rw [goesOn_eq_true_iff]
          refine ⟨?_, goes⟩
          simp only [Function.iterate_zero, id]
          omega
        | succ i =>
          rw [Function.iterate_succ_apply]
          exact before i (by omega)

/-- What a batch that no step has stopped keeps of the steps behind it. -/
structure Tracks (machine : Machine) (steps : Nat) (batch : Batch) : Prop where
  executed : batch.executed = steps
  reached : batch.machine = step^[steps] { machine with status := .ok }
  completes : machine.Completes steps
  unknown : batch.unknownWord? = (machine.lastUnknown? steps).map Machine.fault
  recorded : batch.machine.fault = batch.unknownWord?.getD machine.fault

variable {batch : Batch}

theorem tracks_start (machine : Machine) : Tracks machine 0 (start machine) where
  executed := rfl
  reached := rfl
  completes := completes_zero machine
  unknown := rfl
  recorded := rfl

theorem Tracks.step (tracks : Tracks machine steps batch) :
    batch.machine.step = Machine.step^[steps + 1] machine := by
  rw [tracks.reached, ← Function.iterate_succ_apply' Machine.step, iterate_step_withStatus]

theorem Tracks.consumed (tracks : Tracks machine steps batch) :
    batch.machine.status.consumed = true := by
  have completes := tracks.completes
  rw [tracks.reached]
  cases steps with
  | zero => rfl
  | succ steps =>
    rw [iterate_step_withStatus]
    exact (completes_succ_iff.mp completes).2

/-- A pass that takes its cycle keeps the invariant. A clean step leaves the recorded word, and an
unknown instruction records the word that the batch now remembers. -/
theorem Tracks.pass (tracks : Tracks machine steps batch)
    (goes : batch.machine.step.status.consumed = true) : Tracks machine (steps + 1) batch.pass := by
  have stepped := tracks.step
  constructor
  · rw [pass_executed_of_consumed goes, tracks.executed]
  · rw [iterate_step_withStatus]
    exact stepped
  · rw [completes_succ_iff]
    exact ⟨tracks.completes, stepped ▸ goes⟩
  · rw [lastUnknown?_succ, ← stepped]
    by_cases unknown : batch.machine.step.status = .noOp
    · simp [Batch.pass, unknown]
    · simp [Batch.pass, unknown, tracks.unknown]
  · by_cases unknown : batch.machine.step.status = .noOp
    · simp [Batch.pass, unknown]
    · have clean : batch.machine.step.status = .ok := by
        simpa [unknown] using Status.consumed_iff.mp goes
      simp [Batch.pass, clean, step_fault_of_ok clean, tracks.recorded]

theorem Tracks.advance (tracks : Tracks machine steps batch) (cycles : Nat)
    (completes : machine.Completes (steps + cycles)) :
    Tracks machine (steps + cycles) (batch.advance cycles) := by
  induction cycles generalizing steps batch with
  | zero => exact tracks
  | succ cycles ih =>
    have next := completes.mono (show steps + 1 ≤ steps + (cycles + 1) by omega)
    have goes : batch.machine.step.status.consumed = true := by
      rw [tracks.step]
      exact (completes_succ_iff.mp next).2
    have shift : steps + (cycles + 1) = steps + 1 + cycles := by omega
    rw [advance_succ_of_consumed tracks.consumed, shift]
    exact ih (tracks.pass goes) (shift ▸ completes)

theorem tracks_of_completes (completes : machine.Completes steps) :
    Tracks machine steps ((start machine).advance steps) := by
  have tracks := (tracks_start machine).advance steps
  rw [Nat.zero_add] at tracks
  exact tracks completes

end Batch

end Chip8.Machine
