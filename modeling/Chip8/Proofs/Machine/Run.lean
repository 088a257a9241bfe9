import Chip8.Proofs.Machine.Batch

/-!
Runs read off the steps they make. `run_of_completes` and `run_of_stopped` say what a run gives that
no step stops and one that some step does, and `completes_or_stops` that there is no third kind.
The main results rest on these: a run is iterated step, a run may be split in two, and a failure is
reported again for ever.
-/

namespace Chip8.Machine

variable {machine : Machine} {steps : Nat}

def completedStatus (machine : Machine) (steps : Nat) : Status :=
  if (machine.lastUnknown? steps).isSome then .noOp else .ok

theorem completedStatus_consumed (machine : Machine) (steps : Nat) :
    (machine.completedStatus steps).consumed = true := by
  unfold completedStatus
  split <;> rfl

theorem completedStatus_eq_noOp_iff :
    machine.completedStatus steps = .noOp ↔ (machine.lastUnknown? steps).isSome = true := by
  unfold completedStatus
  split <;> rename_i unknown <;> simp [unknown]

theorem completedStatus_add_eq_noOp_iff {first second : Nat} :
    machine.completedStatus (first + second) = .noOp ↔
      machine.completedStatus first = .noOp ∨
        (step^[first] machine).completedStatus second = .noOp := by
  rw [completedStatus_eq_noOp_iff, completedStatus_eq_noOp_iff, completedStatus_eq_noOp_iff,
    lastUnknown?_add, Option.isSome_or, Bool.or_eq_true, or_comm]

theorem completes_or_stops (machine : Machine) (cycles : Nat) :
    machine.Completes cycles ∨ ∃ steps < cycles, machine.Completes steps ∧
      (step^[steps + 1] machine).status.consumed = false := by
  induction cycles with
  | zero => exact .inl (completes_zero machine)
  | succ cycles ih =>
    rcases ih with completes | ⟨steps, before, completes, stopped⟩
    · cases goes : (step^[cycles + 1] machine).status.consumed with
      | true => exact .inl (completes_succ_iff.mpr ⟨completes, goes⟩)
      | false => exact .inr ⟨cycles, by omega, completes, goes⟩
    · exact .inr ⟨steps, by omega, completes, stopped⟩

theorem iterate_withStatus_withStatus (machine : Machine) (before after : Status) (steps : Nat) :
    { step^[steps] { machine with status := before } with status := after } =
      { step^[steps] machine with status := after } := by
  cases steps with
  | zero => rfl
  | succ steps => rw [iterate_step_withStatus]

/-- The word on record after steps that stopped nothing is that of the last unknown instruction. -/
theorem iterate_step_fault (completes : machine.Completes steps) :
    (step^[steps] machine).fault =
      ((machine.lastUnknown? steps).map Machine.fault).getD machine.fault := by
  have tracks := Batch.tracks_of_completes completes
  have same := congrArg Machine.fault (iterate_withStatus_withStatus machine .ok .ok steps)
  calc
    _ = (step^[steps] { machine with status := .ok }).fault := same.symm
    _ = ((machine.lastUnknown? steps).map Machine.fault).getD machine.fault := by
      rw [← tracks.reached, tracks.recorded, tracks.unknown]

/-- A batch that no step stopped reports whether it met an unknown instruction. -/
theorem run_of_completes (completes : machine.Completes steps) :
    machine.run steps =
      ({ step^[steps] machine with status := machine.completedStatus steps }, steps) := by
  have tracks := Batch.tracks_of_completes completes
  have unknown := tracks.unknown
  have recorded := tracks.recorded
  have reached :=
    iterate_withStatus_withStatus machine .ok (machine.completedStatus steps) steps
  rw [← tracks.reached] at reached
  rw [run, Int.toNat_natCast, tracks.executed, Batch.result, if_pos tracks.consumed, ← reached,
    completedStatus]
  cases last : machine.lastUnknown? steps with
  | none =>
    rw [last] at unknown
    rw [unknown]
    rfl
  | some stepped =>
    rw [last] at unknown
    rw [unknown] at recorded ⊢
    simp only [Option.map_some, Option.getD_some] at recorded
    simp [← recorded]

theorem run_status_consumed (completes : machine.Completes steps) :
    (machine.run steps).1.status.consumed = true := by
  rw [run_of_completes completes]
  exact completedStatus_consumed machine steps

/-- A batch that a step stopped leaves the machine as that step did. -/
theorem run_of_stopped {cycles : Nat} (completes : machine.Completes steps)
    (before : steps < cycles) (stopped : (step^[steps + 1] machine).status.consumed = false) :
    machine.run cycles = (step^[steps + 1] machine, steps) := by
  have tracks := Batch.tracks_of_completes completes
  rw [← tracks.step] at stopped ⊢
  have last : (Batch.start machine).advance cycles =
      ((Batch.start machine).advance steps).pass := by
    have split : cycles = steps + (cycles - steps - 1 + 1) := by omega
    rw [split, Batch.advance_add, Batch.advance_succ_of_consumed tracks.consumed]
    exact Batch.advance_of_stopped stopped _
  have uncounted : ((Batch.start machine).advance steps).pass.executed = steps := by
    rw [Batch.pass, stopped]
    exact tracks.executed
  rw [run, Int.toNat_natCast, last, uncounted, Batch.result]
  exact congrArg (·, steps) (if_neg (by rw [Batch.pass, stopped]; decide))

theorem run_toNat (machine : Machine) (cycles : Int) :
    machine.run cycles = machine.run cycles.toNat := by
  rw [run, run, Int.toNat_natCast]

theorem run_count (machine : Machine) (cycles : Nat) :
    (machine.run cycles).2 ≤ cycles ∧
      ((machine.run cycles).2 = cycles ↔ (machine.run cycles).1.status.consumed = true) := by
  rcases completes_or_stops machine cycles with completes | ⟨steps, before, completes, stopped⟩
  · have consumed := run_status_consumed completes
    rw [run_of_completes completes] at consumed ⊢
    exact ⟨Nat.le_refl cycles, fun _ => consumed, fun _ => rfl⟩
  · rw [run_of_stopped completes before stopped, stopped]
    exact ⟨Nat.le_of_lt before, fun all => absurd all (Nat.ne_of_lt before), Bool.noConfusion⟩

theorem run_of_nonpos {cycles : Int} (none : cycles ≤ 0) :
    machine.run cycles = ({ machine with status := .ok }, 0) := by
  have zero : cycles.toNat = 0 := Int.toNat_of_nonpos none
  simp only [run, zero]
  rfl

/-- A run that resumes where a step was stopped is stopped at once, with the same report. -/
theorem run_of_step_stopped {cycles : Nat} (stopped : machine.step.status.consumed = false)
    (some : 0 < cycles) : machine.step.run cycles = (machine.step, 0) := by
  have again := step_step_of_stopped stopped
  have resumed := run_of_stopped (completes_zero machine.step) some
    (by rw [Function.iterate_one, again]; exact stopped)
  rw [Function.iterate_one, again] at resumed
  exact resumed

theorem run_succ_of_ok (clean : machine.step.status = .ok) (cycles : Nat) :
    machine.run (cycles + 1 : Nat) =
      ((machine.step.run cycles).1, (machine.step.run cycles).2 + 1) := by
  have first : machine.Completes 1 := by
    rw [completes_succ_iff, Function.iterate_one, clean]
    exact ⟨completes_zero machine, rfl⟩
  have silent : machine.lastUnknown? 1 = none := by
    rw [lastUnknown?_succ, Function.iterate_one, if_neg (by rw [clean]; decide)]
    rfl
  rcases completes_or_stops machine.step cycles with rest | ⟨steps, before, rest, stopped⟩
  · have whole : machine.Completes (1 + cycles) := completes_add_iff.mpr ⟨first, rest⟩
    have unknown : machine.lastUnknown? (1 + cycles) = machine.step.lastUnknown? cycles := by
      rw [lastUnknown?_add, silent, Option.or_none]
      rfl
    rw [Nat.add_comm] at whole unknown
    rw [run_of_completes whole, run_of_completes rest, completedStatus, unknown]
    rfl
  · have whole : machine.Completes (1 + steps) := completes_add_iff.mpr ⟨first, rest⟩
    rw [Nat.add_comm] at whole
    rw [run_of_stopped whole (Nat.succ_lt_succ before) stopped, run_of_stopped rest before stopped]
    rfl

theorem run_status_code_le (machine : Machine) (cycles : Int) :
    (machine.run cycles).1.status.code ≤ 5 := by
  rw [run_toNat]
  rcases completes_or_stops machine cycles.toNat with completes | ⟨steps, before, completes, stopped⟩
  · rcases Status.consumed_iff.mp (run_status_consumed completes) with clean | unknown
    · rw [clean]
      decide
    · rw [unknown]
      decide
  · rw [run_of_stopped completes before stopped, Function.iterate_succ_apply']
    exact step_status_code_le _

def MeetsUnknown (machine : Machine) (cycles : Int) : Prop :=
  ∃ i < (machine.run cycles).2, (step^[i] machine).fetched? = some .unknown

theorem lastUnknown?_isSome_of_fetched? {i : Nat} (before : i < steps)
    (unknown : (step^[i] machine).fetched? = some .unknown) :
    (machine.lastUnknown? steps).isSome = true := by
  rw [← step_status_eq_noOp_iff, ← Function.iterate_succ_apply' step] at unknown
  rw [lastUnknown?, List.find?_isSome]
  refine ⟨step^[i + 1] machine, ?_, decide_eq_true unknown⟩
  rw [List.mem_reverse, trace]
  exact List.mem_map_of_mem (List.mem_range.mpr before)

/-- A run that meets an unknown instruction never reports a clean status: it reports that
instruction, or else what stopped it. -/
theorem run_status_ne_ok {cycles : Int} (meets : machine.MeetsUnknown cycles) :
    (machine.run cycles).1.status ≠ .ok := by
  obtain ⟨i, before, unknown⟩ := meets
  rw [run_toNat] at before ⊢
  rcases completes_or_stops machine cycles.toNat with completes | ⟨steps, early, completes, stopped⟩
  · rw [run_of_completes completes] at before ⊢
    have some := lastUnknown?_isSome_of_fetched? before unknown
    have status := completedStatus_eq_noOp_iff.mpr some
    rw [status]
    exact Status.noConfusion
  · rw [run_of_stopped completes early stopped]
    intro clean
    rw [clean] at stopped
    exact Bool.noConfusion stopped

/-- A run is iterated step. It makes its steps one after the other until they have used its cycles or
one of them stops it; then it reports the last unknown word, or else what stopped it. The loop makes a
pass as long as its condition holds, and at most one for each cycle. -/
theorem run_eq_iterate_step (machine : Machine) (cycles : Int) :
    (cycles ≤ 0 → machine.run cycles = ({ machine with status := .ok }, 0)) ∧
    (machine.Completes cycles.toNat →
      machine.run cycles =
        ({ step^[cycles.toNat] machine with
            status := if (machine.lastUnknown? cycles.toNat).isSome then .noOp else .ok
            fault := ((machine.lastUnknown? cycles.toNat).map Machine.fault).getD machine.fault },
          cycles.toNat)) ∧
    (∀ steps < cycles.toNat, machine.Completes steps →
      (step^[steps + 1] machine).status.consumed = false →
      machine.run cycles = (step^[steps + 1] machine, steps)) ∧
    ∃ passes ≤ cycles.toNat,
      machine.run cycles =
        ((Batch.pass^[passes] (Batch.start machine)).result,
          (Batch.pass^[passes] (Batch.start machine)).executed) ∧
      (∀ i < passes, (Batch.pass^[i] (Batch.start machine)).goesOn cycles = true) ∧
      (Batch.pass^[passes] (Batch.start machine)).goesOn cycles = false := by
  have natural := run_toNat machine cycles
  refine ⟨run_of_nonpos, ?_, ?_, ?_⟩
  · intro completes
    rw [natural, run_of_completes completes, ← iterate_step_fault completes]
    rfl
  · intro steps before completes stopped
    rw [natural, run_of_stopped completes before stopped]
  · obtain ⟨passes, few, unrolled, before, after⟩ :=
      Batch.advance_eq_iterate_pass (Batch.start machine) cycles cycles.toNat
        (fun _ => Nat.zero_add _)
    refine ⟨passes, few, ?_, before, after⟩
    rw [run, unrolled]

/-- Two batches in a row compute what one batch of all their cycles does. Only the status may
differ: each batch reports its own unknown instructions, and a batch without cycles reports none. -/
theorem run_add (machine : Machine) (first second : Nat) :
    (machine.run (first + second)).2 =
      (machine.run first).2 + ((machine.run first).1.run second).2 ∧
    (machine.run (first + second)).1 =
      { ((machine.run first).1.run second).1 with
        status := (machine.run (first + second)).1.status } ∧
    ((machine.run (first + second)).1.status.consumed = false → 1 ≤ second →
      ((machine.run first).1.run second).1.status = (machine.run (first + second)).1.status) ∧
    ((machine.run (first + second)).1.status.consumed = true →
      ((machine.run (first + second)).1.status = .noOp ↔
        (machine.run first).1.status = .noOp ∨
          ((machine.run first).1.run second).1.status = .noOp)) := by
  rw [← Int.natCast_add]
  rcases completes_or_stops machine first with completes | ⟨steps, before, completes, stopped⟩
  -- The second batch starts where the first one ended, up to the status, which no step reads.
  · have resumed : (machine.run first).1.run second = (step^[first] machine).run second := by
      rw [run_of_completes completes]
      rfl
    rw [resumed]
    rcases completes_or_stops (step^[first] machine) second with rest | ⟨steps, before, rest, stopped⟩
    · have whole := completes_add_iff.mpr ⟨completes, rest⟩
      have reached : step^[first + second] machine = step^[second] (step^[first] machine) := by
        rw [Nat.add_comm, Function.iterate_add_apply]
      rw [run_of_completes whole, run_of_completes completes, run_of_completes rest, reached]
      refine ⟨rfl, rfl, ?_, fun _ => completedStatus_add_eq_noOp_iff⟩
      intro stopped
      have goes := completedStatus_consumed machine (first + second)
      exact absurd (stopped.symm.trans goes) Bool.false_ne_true
    · have whole := completes_add_iff.mpr ⟨completes, rest⟩
      have reached : step^[first + steps + 1] machine = step^[steps + 1] (step^[first] machine) := by
        rw [← Function.iterate_add_apply]
        exact congrArg (step^[·] machine) (by omega)
      rw [run_of_stopped whole (show first + steps < first + second by omega) (reached ▸ stopped),
        run_of_completes completes, run_of_stopped rest before stopped, reached]
      refine ⟨rfl, rfl, fun _ _ => rfl, ?_⟩
      intro goes
      exact absurd (stopped.symm.trans goes) Bool.false_ne_true
  -- The step that stopped the first batch stops the whole one too, and the second repeats it.
  · rw [run_of_stopped completes before stopped,
      run_of_stopped completes (show steps < first + second by omega) stopped]
    have unclear : (step^[steps + 1] machine).status.consumed ≠ true := by
      rw [stopped]
      exact Bool.false_ne_true
    cases second with
    | zero =>
      refine ⟨rfl, rfl, ?_, fun goes => absurd goes unclear⟩
      intro _ none
      exact absurd none (by decide)
    | succ second =>
      have resumed : (step^[steps + 1] machine).run (second + 1 : Nat) =
          (step^[steps + 1] machine, 0) := by
        rw [Function.iterate_succ_apply'] at stopped ⊢
        exact run_of_step_stopped stopped (Nat.succ_pos second)
      rw [resumed]
      exact ⟨rfl, rfl, fun _ _ => rfl, fun goes => absurd goes unclear⟩

/-- A fatal step is atomic, and every later run reports the same failure without a cycle. -/
theorem fatal_step_atomic_and_sticky (failed : machine.step.status.isFatal = true) :
    machine.step =
      { machine with status := machine.step.status, fault := machine.step.fault } ∧
    ∀ cycles : Int, 1 ≤ cycles → machine.step.run cycles = (machine.step, 0) := by
  refine ⟨step_eq_reported_of_isFatal failed, ?_⟩
  intro cycles some
  have stopped := Status.consumed_eq_false_iff.mpr (.inr failed)
  have natural : (cycles.toNat : Int) = cycles := Int.toNat_of_nonneg (by omega)
  rw [← natural]
  exact run_of_step_stopped stopped (by omega)

theorem full_stack_call_atomic_and_sticky :
    let machine : Machine :=
      { create ⟨0, 0⟩ {} with
        memory := Vector.replicate 4096 0x2F
        stack := ⟨Vector.replicate 16 0, 17⟩ }
    machine.step.status.isFatal = true ∧
    machine.step =
      { machine with status := machine.step.status, fault := machine.step.fault } ∧
    ∀ cycles : Int, 1 ≤ cycles → machine.step.run cycles = (machine.step, 0) := by
  intro machine
  have failed : machine.step.status.isFatal = true := by decide +kernel
  exact ⟨failed, fatal_step_atomic_and_sticky failed⟩

end Chip8.Machine
