import Chip8.Proofs.Machine.BatchReport

/-!
Two machines in step. As long as two machines report the same after every step, their runs take the
same cycles and report the same (`run_of_inStep`). A machine with another periphery stays in step for
as long as no step looks at what differs, and `run_fitted` says what its runs come to. Where the
difference is a change that every step passes over, `run_of_passesOver` carries it from the start of
a run to its end.
-/

namespace Chip8

namespace Machine

/-- The steps that a run makes: those that take a cycle, and the one that stops it. -/
def stepsOf (machine : Machine) (cycles : Int) : Nat :=
  if (machine.run cycles).1.status.consumed then (machine.run cycles).2
  else (machine.run cycles).2 + 1

/-- A second machine reports what the first one does. A clean report says nothing of the record. -/
structure SameReport (machine other : Machine) : Prop where
  status : other.status = machine.status
  fault : machine.status ≠ .ok → other.fault = machine.fault

def InStep (machine other : Machine) (steps : Nat) : Prop :=
  ∀ i < steps, SameReport (step^[i + 1] machine) (step^[i + 1] other)

variable {machine other : Machine} {steps : Nat} {cycles : Int}

theorem stepsOf_of_completes (completes : machine.Completes steps) :
    machine.stepsOf steps = steps := by
  rw [stepsOf, if_pos (run_status_consumed completes), run_of_completes completes]

theorem stepsOf_of_stopped {cycles : Nat} (completes : machine.Completes steps)
    (before : steps < cycles) (stopped : (step^[steps + 1] machine).status.consumed = false) :
    machine.stepsOf cycles = steps + 1 := by
  rw [stepsOf, run_of_stopped completes before stopped, stopped]
  exact if_neg Bool.false_ne_true

theorem stepsOf_toNat (machine : Machine) (cycles : Int) :
    machine.stepsOf cycles = machine.stepsOf cycles.toNat := by
  rw [stepsOf, stepsOf, ← run_toNat]

theorem run_eq_reported (machine : Machine) (cycles : Int) :
    (machine.run cycles).1 =
      (step^[machine.stepsOf cycles] machine).reported (machine.run cycles).1.status
        (machine.run cycles).1.fault := by
  rw [stepsOf_toNat, run_toNat]
  rcases completes_or_stops machine cycles.toNat with completes | ⟨steps, before, completes, stopped⟩
  · rw [stepsOf_of_completes completes, run_of_completes completes]
    rfl
  · rw [stepsOf_of_stopped completes before stopped, run_of_stopped completes before stopped]
    rfl

theorem InStep.mono {fewer : Nat} (inStep : machine.InStep other steps) (le : fewer ≤ steps) :
    machine.InStep other fewer :=
  fun i before => inStep i (Nat.lt_of_lt_of_le before le)

theorem InStep.completes (inStep : machine.InStep other steps)
    (completes : machine.Completes steps) : other.Completes steps := by
  induction steps with
  | zero => exact completes_zero other
  | succ steps ih =>
    obtain ⟨earlier, goes⟩ := completes_succ_iff.mp completes
    refine completes_succ_iff.mpr ⟨ih (inStep.mono (Nat.le_succ steps)) earlier, ?_⟩
    rw [(inStep steps (Nat.lt_succ_self steps)).status]
    exact goes

theorem InStep.lastUnknown? (inStep : machine.InStep other steps) :
    (other.lastUnknown? steps).map Machine.fault =
      (machine.lastUnknown? steps).map Machine.fault := by
  induction steps with
  | zero => rfl
  | succ steps ih =>
    have last := inStep steps (Nat.lt_succ_self steps)
    rw [lastUnknown?_succ, lastUnknown?_succ, last.status]
    split
    · rename_i unknown
      rw [Option.map_some, Option.map_some, last.fault (by rw [unknown]; exact Status.noConfusion)]
    · exact ih (inStep.mono (Nat.le_succ steps))

/-- Machines in step end their runs after the same cycles and report the same of them. -/
theorem run_of_inStep (inStep : machine.InStep other (machine.stepsOf cycles)) :
    (other.run cycles).2 = (machine.run cycles).2 ∧
      SameReport (machine.run cycles).1 (other.run cycles).1 := by
  rw [stepsOf_toNat] at inStep
  rw [run_toNat machine, run_toNat other]
  rcases completes_or_stops machine cycles.toNat with completes | ⟨steps, before, completes, stopped⟩
  · rw [stepsOf_of_completes completes] at inStep
    have completes' := inStep.completes completes
    have unknown := inStep.lastUnknown?
    have status : other.completedStatus cycles.toNat = machine.completedStatus cycles.toNat := by
      have both := congrArg Option.isSome unknown
      rw [Option.isSome_map, Option.isSome_map] at both
      rw [completedStatus, completedStatus, both]
    rw [run_of_completes completes, run_of_completes completes']
    refine ⟨rfl, status, ?_⟩
    -- Only a batch that met an unknown instruction has a record of its own to report.
    intro unclean
    change (step^[cycles.toNat] other).fault = (step^[cycles.toNat] machine).fault
    rw [iterate_step_fault completes, iterate_step_fault completes', unknown]
    cases last : machine.lastUnknown? cycles.toNat with
    | some stepped => rfl
    | none => exact absurd (by simp [completedStatus, last]) unclean
  · rw [stepsOf_of_stopped completes before stopped] at inStep
    have completes' := (inStep.mono (Nat.le_succ steps)).completes completes
    have last := inStep steps (Nat.lt_succ_self steps)
    have stopped' : (step^[steps + 1] other).status.consumed = false := by
      rw [last.status]
      exact stopped
    rw [run_of_stopped completes before stopped, run_of_stopped completes' before stopped']
    exact ⟨rfl, last⟩

end Machine

open Machine

namespace Periphery

def afterSteps (periphery : Periphery) (machine : Machine) : Nat → Periphery
  | 0 => periphery
  | steps + 1 => (periphery.afterSteps machine steps).stepped (step^[steps] machine)

/-- The periphery after a run of a machine. A clean run keeps the word that was recorded. -/
def afterRun (periphery : Periphery) (machine : Machine) (cycles : Int) : Periphery :=
  { periphery.afterSteps machine (machine.stepsOf cycles) with
    status := (machine.run cycles).1.status
    fault :=
      if (machine.run cycles).1.status = .ok then periphery.fault
      else (machine.run cycles).1.fault }

end Periphery

namespace Machine

variable {machine : Machine} {other : Periphery} {steps : Nat} {cycles : Int}

theorem afterSteps_of_kept {Same : Periphery → Periphery → Prop}
    (kept : ∀ i < steps, ∀ periphery, Same (step^[i] machine).periphery periphery →
      Same (step^[i] machine).step.periphery (periphery.stepped (step^[i] machine)))
    (same : Same machine.periphery other) :
    Same (step^[steps] machine).periphery (other.afterSteps machine steps) := by
  induction steps with
  | zero => exact same
  | succ steps ih =>
    rw [Function.iterate_succ_apply']
    apply kept steps (Nat.lt_succ_self steps)
    exact ih fun i before => kept i (Nat.lt_succ_of_lt before)

theorem iterate_step_fitted
    (ignores : ∀ i < steps, (step^[i] machine).Ignores (other.afterSteps machine i)) :
    step^[steps] (machine.fitted other) =
      (step^[steps] machine).fitted (other.afterSteps machine steps) := by
  induction steps with
  | zero => rfl
  | succ steps ih =>
    have earlier := ih fun i before => ignores i (Nat.lt_succ_of_lt before)
    rw [Function.iterate_succ_apply', Function.iterate_succ_apply', earlier,
      step_fitted (ignores steps (Nat.lt_succ_self steps))]
    rfl

theorem inStep_fitted
    (ignores : ∀ i < steps, (step^[i] machine).Ignores (other.afterSteps machine i)) :
    machine.InStep (machine.fitted other) steps := by
  intro i before
  rw [iterate_step_fitted fun j small => ignores j (by omega), Function.iterate_succ_apply']
  exact ⟨rfl, fun unclean => if_neg unclean⟩

theorem run_fitted
    (ignores : ∀ i < machine.stepsOf cycles,
      (step^[i] machine).Ignores (other.afterSteps machine i)) :
    (machine.fitted other).run cycles =
      ((machine.run cycles).1.fitted (other.afterRun machine cycles), (machine.run cycles).2) := by
  obtain ⟨executed, report⟩ := run_of_inStep (inStep_fitted ignores)
  -- The number of steps is read off the cycles and the status, which both runs report.
  have count : (machine.fitted other).stepsOf cycles = machine.stepsOf cycles := by
    rw [stepsOf, stepsOf, executed, report.status]
  have fault : ((machine.fitted other).run cycles).1.fault =
      (other.afterRun machine cycles).fault := by
    by_cases clean : (machine.run cycles).1.status = .ok
    · rw [run_fault_of_ok (report.status.trans clean)]
      exact (if_pos clean).symm
    · rw [report.fault clean]
      exact (if_neg clean).symm
  have reached : ((machine.fitted other).run cycles).1 =
      (machine.run cycles).1.fitted (other.afterRun machine cycles) := by
    rw [run_eq_reported (machine.fitted other), count, iterate_step_fitted ignores, report.status,
      fault, run_eq_reported machine]
    rfl
  exact Prod.ext reached executed

/-- What every step of a run keeps of two peripheries holds to its end, and as long as it holds the
steps need not find a difference. -/
theorem run_fitted_of_kept {Same : Periphery → Periphery → Prop}
    (ignores : ∀ i < machine.stepsOf cycles, ∀ periphery,
      Same (step^[i] machine).periphery periphery → (step^[i] machine).Ignores periphery)
    (kept : ∀ i < machine.stepsOf cycles, ∀ periphery, Same (step^[i] machine).periphery periphery →
      Same (step^[i] machine).step.periphery (periphery.stepped (step^[i] machine)))
    (same : Same machine.periphery other) :
    (machine.fitted other).run cycles =
      ((machine.run cycles).1.fitted (other.afterRun machine cycles), (machine.run cycles).2) ∧
    Same (step^[machine.stepsOf cycles] machine).periphery
      (other.afterSteps machine (machine.stepsOf cycles)) := by
  have reached (i : Nat) (le : i ≤ machine.stepsOf cycles) :
      Same (step^[i] machine).periphery (other.afterSteps machine i) :=
    afterSteps_of_kept (fun j before => kept j (Nat.lt_of_lt_of_le before le)) same
  refine ⟨run_fitted ?_, reached _ (Nat.le_refl _)⟩
  intro i before
  exact ignores i before _ (reached i (Nat.le_of_lt before))

theorem afterSteps_periphery (machine : Machine) (steps : Nat) :
    machine.periphery.afterSteps machine steps = (step^[steps] machine).periphery := by
  apply @afterSteps_of_kept machine machine.periphery steps fun first second => second = first
  · rintro i - periphery rfl
    rw [step_periphery]
  · rfl

theorem run_periphery (machine : Machine) (cycles : Int) :
    (machine.run cycles).1.periphery = machine.periphery.afterRun machine cycles := by
  have ignores (i : Nat) (_ : i < machine.stepsOf cycles) :
      (step^[i] machine).Ignores (machine.periphery.afterSteps machine i) := by
    rw [afterSteps_periphery]
    exact ignores_of_eq rfl rfl rfl rfl
  have ran := run_fitted ignores
  rw [fitted_periphery] at ran
  exact congrArg (·.1.periphery) ran

def Unreported (change : Periphery → Periphery) : Prop :=
  ∀ periphery status fault,
    change { periphery with status, fault } = { change periphery with status, fault }

/-- The next step passes over a change of the periphery: it takes the same from the changed one, and
what it does there itself comes to the same before the change and after it. -/
structure PassesOver (machine : Machine) (change : Periphery → Periphery) : Prop where
  ignores : machine.Ignores (change machine.periphery)
  updated : ∀ instruction, machine.fetched? = some instruction → ∀ periphery,
    (change periphery).updated machine instruction = change (periphery.updated machine instruction)

section Changes

variable {change : Periphery → Periphery} (unreported : Unreported change)
include unreported

theorem Unreported.fault (periphery : Periphery) : (change periphery).fault = periphery.fault := by
  have same := congrArg Periphery.fault (unreported periphery periphery.status periphery.fault)
  exact same

theorem PassesOver.stepped (passes : machine.PassesOver change) (periphery : Periphery) :
    (change periphery).stepped machine = change (periphery.stepped machine) := by
  rw [Periphery.stepped, Periphery.stepped, unreported.fault]
  refine Eq.trans ?_ (unreported _ _ _).symm
  cases fetched : machine.fetched? with
  | none => rfl
  | some instruction =>
    rw [Option.elim_some, Option.elim_some, passes.updated instruction fetched]

theorem PassesOver.step (passes : machine.PassesOver change) :
    (machine.fitted (change machine.periphery)).step =
      machine.step.fitted (change machine.step.periphery) := by
  rw [step_fitted passes.ignores, passes.stepped unreported, ← step_periphery]

theorem iterate_step_of_passesOver (passes : ∀ i < steps, (step^[i] machine).PassesOver change) :
    step^[steps] (machine.fitted (change machine.periphery)) =
      (step^[steps] machine).fitted (change (step^[steps] machine).periphery) := by
  induction steps with
  | zero => rfl
  | succ steps ih =>
    rw [Function.iterate_succ_apply', Function.iterate_succ_apply',
      ih fun i before => passes i (Nat.lt_succ_of_lt before),
      (passes steps (Nat.lt_succ_self steps)).step unreported]

theorem run_of_passesOver
    (passes : ∀ i < machine.stepsOf cycles, (step^[i] machine).PassesOver change) :
    (machine.fitted (change machine.periphery)).run cycles =
      ((machine.run cycles).1.fitted (change (machine.run cycles).1.periphery),
        (machine.run cycles).2) := by
  have ignores : ∀ i < machine.stepsOf cycles, ∀ periphery,
      periphery = change (step^[i] machine).periphery → (step^[i] machine).Ignores periphery := by
    rintro i before periphery rfl
    exact (passes i before).ignores
  have kept : ∀ i < machine.stepsOf cycles, ∀ periphery,
      periphery = change (step^[i] machine).periphery →
      periphery.stepped (step^[i] machine) = change (step^[i] machine).step.periphery := by
    rintro i before periphery rfl
    rw [(passes i before).stepped unreported, ← step_periphery]
  obtain ⟨ran, reached⟩ := @run_fitted_of_kept machine (change machine.periphery) cycles
    (fun first second => second = change first) ignores kept rfl
  have report : (change machine.periphery).afterRun machine cycles =
      change (machine.run cycles).1.periphery := by
    rw [Periphery.afterRun, reached, unreported.fault, run_periphery, Periphery.afterRun,
      afterSteps_periphery]
    exact (unreported _ _ _).symm
  rw [ran, report]

end Changes

end Machine

end Chip8
