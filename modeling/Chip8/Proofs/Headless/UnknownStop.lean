import Chip8.Proofs.Headless.Frames

/-!
When an unknown instruction ends a run whose settings ask for that. The session only sees what a
batch reports at its end, and there a key wait takes the place of the unknown instructions before
it: `run_stops_at_unknown_iff` says that the run stops after the frame of an unknown instruction
unless the frame ends in such a wait.
-/

namespace Chip8

namespace Machine

variable {machine : Machine} {x : Register}

/-- A key wait hides the unknown instruction before it. -/
theorem run_of_unknown_of_awaitKey {cycles : Nat} (room : 2 ≤ cycles)
    (unknown : machine.fetched? = some .unknown)
    (waits : machine.step.fetched? = some (.awaitKey x))
    (released : machine.keypad.lowest? = none) :
    (machine.run cycles).1.status = .inputHalt ∧ (machine.run cycles).2 = 1 := by
  have skipped := step_of_unknown unknown
  have released' : machine.step.keypad.lowest? = none := by
    rw [skipped]
    exact released
  have status : machine.step.step.status = .inputHalt := by
    rw [step_of_awaitKey_of_released waits released']
  have completes : machine.Completes 1 := by
    rw [completes_succ_iff, Function.iterate_one, skipped]
    exact ⟨completes_zero machine, rfl⟩
  have stopped : (step^[1 + 1] machine).status.consumed = false := by
    rw [Function.iterate_succ_apply, Function.iterate_one, status]
    rfl
  rw [run_of_stopped completes room stopped]
  exact ⟨status, rfl⟩

end Machine

namespace Headless

variable {config : Config} {image : Except ReadFailure (List UInt8)} {frame : Nat} {cycles : Int}
  {session next result : Session} {logger log : Log.Logger}

def MeetsUnknown (config : Config) (image : Except ReadFailure (List UInt8)) (frame : Nat) : Prop :=
  ∃ session cyclesPerFrame, sessionBefore config image frame = .ok session ∧
    config.cyclesPerFrame = .ok cyclesPerFrame ∧ session.machine.MeetsUnknown cyclesPerFrame

theorem meetsUnknown_iff (reached : sessionBefore config image frame = .ok session)
    (rate : config.cyclesPerFrame = .ok cycles) :
    MeetsUnknown config image frame ↔ session.machine.MeetsUnknown cycles := by
  simp [MeetsUnknown, reached, rate]

theorem stopped_iff_of_meetsUnknown
    (reached : sessionBefore config image (frame + 1) = .ok next)
    (stops : config.stopOnUnknown = true) (meets : MeetsUnknown config image frame) :
    next.stopped = true ↔ ¬ EndsInHalt config image frame := by
  obtain ⟨session, cycles, before, rate, played⟩ := sessionBefore_succ_eq_ok_iff.mp reached
  have follows := Session.follows_of_frame played
  rw [meetsUnknown_iff before rate] at meets
  have unclean := Machine.run_status_ne_ok meets
  calc
    next.stopped = true ↔ _ := by rw [follows.stopped, Session.stops_iff follows.reported]
    _ ↔ (session.machine.run cycles).1.status.isFatal = true ∨
        (session.machine.run cycles).1.status = .noOp := by simp [stops]
    _ ↔ (session.machine.run cycles).1.status ≠ .inputHalt := Status.isFatal_or_eq_noOp_iff unclean
    _ ↔ ¬ EndsInHalt config image frame := by rw [endsInHalt_iff before rate]

/-- A run that is to stop at an unknown instruction does so, unless the frame ends in a key wait and
further frames were asked for. -/
theorem run_stops_at_unknown_iff (ran : run config image logger = .ok (result, log))
    (stops : config.stopOnUnknown = true) (executed : frame < result.frames)
    (meets : MeetsUnknown config image frame) :
    result.frames = frame + 1 ↔
      ¬ EndsInHalt config image frame ∨ config.frames = frame + 1 := by
  obtain ⟨next, reached⟩ := exists_sessionBefore ran executed
  have last := stopped_iff_of_meetsUnknown reached stops meets
  simp [frames_eq_succ_iff ran executed, reached, last]

def unknownThenWait : List UInt8 := [0x01, 0x23, 0xF0, 0x0A]

def twoFrames (frequency : Int) : Config := { frames := 2, frequency, stopOnUnknown := true }

def unknownThenWaitMachine : Machine :=
  (Machine.create ⟨0, 0⟩ {}).reset.copyImage unknownThenWait

theorem fetched?_unknownThenWait : unknownThenWaitMachine.fetched? = some .unknown := by
  have word : unknownThenWaitMachine.nextWord = _ :=
    Machine.nextWord_of_image unknownThenWait 0 rfl rfl (by decide) (by decide)
  rw [Machine.fetched?_eq_some_iff, word]
  exact ⟨rfl, by decide, by decide⟩

theorem step_fetched?_unknownThenWait :
    unknownThenWaitMachine.step.fetched? = some (.awaitKey 0) := by
  have skipped := Machine.step_of_unknown fetched?_unknownThenWait
  have word : unknownThenWaitMachine.step.nextWord = _ :=
    Machine.nextWord_of_image unknownThenWait 2 (by rw [skipped]; rfl) (by rw [skipped]; rfl)
      (by decide) (by decide)
  rw [Machine.fetched?_eq_some_iff, word, skipped]
  exact ⟨rfl, by decide, by decide⟩

theorem sessionBefore_unknownThenWait (frequency : Int) :
    sessionBefore (twoFrames frequency) (.ok unknownThenWait) 0 =
      .ok (Session.start unknownThenWaitMachine) := rfl

theorem meetsUnknown_unknownThenWait {frequency cyclesPerFrame : Int}
    (rate : (twoFrames frequency).cyclesPerFrame = .ok cyclesPerFrame)
    (counted : (unknownThenWaitMachine.run cyclesPerFrame).2 = 1) :
    MeetsUnknown (twoFrames frequency) (.ok unknownThenWait) 0 := by
  rw [meetsUnknown_iff (sessionBefore_unknownThenWait frequency) rate]
  refine ⟨0, ?_, fetched?_unknownThenWait⟩
  exact counted.symm ▸ Nat.one_pos

theorem exists_run_unknownThenWait {frequency cyclesPerFrame : Int}
    (rate : (twoFrames frequency).cyclesPerFrame = .ok cyclesPerFrame)
    (fits : Word.isSigned32 cyclesPerFrame = true) (small : frequency.natAbs < 0x10000000000000000)
    (logger : Log.Logger) :
    ∃ result log,
      run (twoFrames frequency) (.ok unknownThenWait) logger = .ok (result, log) := by
  have small' : cyclesPerFrame.natAbs < 0x10000000000000000 := by
    have bounds : -0x80000000 ≤ cyclesPerFrame ∧ cyclesPerFrame < 0x80000000 :=
      of_decide_eq_true fits
    omega
  have listed : requireListable ((twoFrames frequency).settings cyclesPerFrame) =
      .ok ((twoFrames frequency).settings cyclesPerFrame) := by
    apply requireListable_settings
    simp [twoFrames, small, small']
  exact exists_run rate fits listed rfl rfl logger

theorem run_stops_at_unknown_single_cycle :
    ∃ result log,
      run (twoFrames 60) (.ok unknownThenWait) (Log.Logger.create {} "CRITICAL" ⟨[]⟩) =
        .ok (result, log) ∧
      (twoFrames 60).stopOnUnknown = true ∧ 0 < result.frames ∧
      MeetsUnknown (twoFrames 60) (.ok unknownThenWait) 0 ∧ result.frames = 0 + 1 := by
  have rate : (twoFrames 60).cyclesPerFrame = .ok 1 := rfl
  obtain ⟨result, log, ran⟩ := exists_run_unknownThenWait rate (by decide) (by decide)
    (Log.Logger.create {} "CRITICAL" ⟨[]⟩)
  have executed := frames_pos ran (by decide)
  have unknown := Machine.step_status_eq_noOp_iff.mpr fetched?_unknownThenWait
  have completes : unknownThenWaitMachine.Completes 1 := by
    rw [Machine.completes_succ_iff, Function.iterate_one, unknown]
    exact ⟨Machine.completes_zero _, rfl⟩
  have counted := congrArg Prod.snd (Machine.run_of_completes completes)
  have meets := meetsUnknown_unknownThenWait rate counted
  have goes : ¬ EndsInHalt (twoFrames 60) (.ok unknownThenWait) 0 := by
    rw [endsInHalt_iff (sessionBefore_unknownThenWait 60) rate]
    intro halts
    have consumed := Machine.run_status_consumed completes
    have waits : (unknownThenWaitMachine.run (1 : Nat)).1.status = .inputHalt := halts
    rw [waits] at consumed
    exact Bool.noConfusion consumed
  exact ⟨result, log, ran, rfl, executed, meets,
    (run_stops_at_unknown_iff ran rfl executed meets).mpr (.inl goes)⟩

/-- With two cycles a frame, the wait hides the unknown instruction, and the run goes on. -/
theorem run_passes_unknown_before_wait :
    ∃ result log,
      run (twoFrames 120) (.ok unknownThenWait) (Log.Logger.create {} "CRITICAL" ⟨[]⟩) =
        .ok (result, log) ∧
      (twoFrames 120).stopOnUnknown = true ∧ 0 < result.frames ∧
      MeetsUnknown (twoFrames 120) (.ok unknownThenWait) 0 ∧ result.frames ≠ 0 + 1 := by
  have rate : (twoFrames 120).cyclesPerFrame = .ok 2 := rfl
  obtain ⟨result, log, ran⟩ := exists_run_unknownThenWait rate (by decide) (by decide)
    (Log.Logger.create {} "CRITICAL" ⟨[]⟩)
  have executed := frames_pos ran (by decide)
  obtain ⟨halts, counted⟩ := Machine.run_of_unknown_of_awaitKey (Nat.le_refl 2)
    fetched?_unknownThenWait step_fetched?_unknownThenWait (by decide)
  have meets := meetsUnknown_unknownThenWait rate counted
  refine ⟨result, log, ran, rfl, executed, meets, ?_⟩
  rw [Ne, frames_eq_succ_iff ran executed]
  rintro (⟨next, reached, stopped⟩ | asked)
  · have waits := (endsInHalt_iff (sessionBefore_unknownThenWait 120) rate).mpr halts
    exact (stopped_iff_of_meetsUnknown reached rfl meets).mp stopped waits
  · exact absurd asked (by decide)

end Headless

end Chip8
