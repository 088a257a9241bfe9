import Chip8.Proofs.Headless.Frames

/-!
The accounts of a headless run. Each frame yields the report of one batch, and what a session has
counted is told from these reports (`Session.Ledger`). A batch falls short of its cycles exactly if it
ends in a key wait or a failure, and no frame but the last one of a run fails, so the total shows
whether any cycle was lost.
-/

namespace Chip8

open Machine

theorem Condition.any_isFatal_eq {condition : Option Condition} {status : Status}
    (reported : statusOf condition = some status) :
    condition.any Condition.isFatal = status.isFatal := by
  cases condition with
  | none =>
    cases reported
    rfl
  | some condition =>
    have known : condition.status? = some status := reported
    rw [Option.any_some, Condition.isFatal, known, Option.any_some]

namespace Machine.BatchReport

def halted (report : BatchReport) : Bool := Headless.Session.isHalt report.condition

def failed (report : BatchReport) : Bool := report.condition.any Condition.isFatal

def total (reports : List BatchReport) : Nat :=
  reports.foldr (fun report sum => report.executed + sum) 0

theorem total_cons (report : BatchReport) (rest : List BatchReport) :
    total (report :: rest) = report.executed + total rest := rfl

theorem total_concat (reports : List BatchReport) (last : BatchReport) :
    total (reports ++ [last]) = total reports + last.executed := by
  induction reports with
  | nil => exact Nat.add_comm last.executed 0
  | cons report rest ih => rw [List.cons_append, total_cons, total_cons, ih, Nat.add_assoc]

variable {machine : Machine} {cycles : Int} {report : BatchReport}

theorem consumed_iff {status : Status}
    (reported : Condition.statusOf report.condition = some status) :
    status.consumed = true ↔ report.halted = false ∧ report.failed = false := by
  rw [halted, failed, Condition.any_isFatal_eq reported, ← Bool.not_eq_false,
    Status.consumed_eq_false_iff, ← Headless.Session.isHalt_iff reported, not_or,
    Bool.not_eq_true, Bool.not_eq_true]

/-- A batch uses up its cycles unless it ends in a key wait or a failure. -/
theorem executed_le_and_eq_iff (given : machine.executeCycles cycles = .ok report)
    (positive : 1 ≤ cycles) :
    (report.executed : Int) ≤ cycles ∧
      ((report.executed : Int) = cycles ↔ report.halted = false ∧ report.failed = false) := by
  obtain ⟨condition, reported, rfl⟩ := exists_of_executeCycles given
  obtain ⟨most, all⟩ := run_count machine cycles.toNat
  rw [← run_toNat] at most all
  rw [← consumed_iff reported, ← all]
  dsimp only
  omega

end Machine.BatchReport

namespace Headless

open BatchReport

variable {config : Config} {image : Except ReadFailure (List UInt8)} {cycles : Int} {frame : Nat}
  {session next result : Session} {logger log : Log.Logger} {reports : List BatchReport}

namespace Session

/-- What a session has counted, told from the reports of its frames. -/
structure Ledger (config : Config) (reports : List BatchReport) (session : Session) : Prop where
  frames : session.frames = reports.length
  cycles : session.cycles = total reports
  haltedFrames : session.haltedFrames = reports.countP halted
  condition : session.condition = reports.getLast?.bind BatchReport.condition
  stopped : session.stopped = stops config session.condition

theorem ledger_start (config : Config) (machine : Machine) : (start machine).Ledger config [] :=
  ⟨rfl, rfl, rfl, rfl, rfl⟩

theorem exists_report (played : session.frame config cycles = .ok next) :
    ∃ report, session.machine.executeCycles cycles = .ok report ∧
      next.condition = report.condition ∧
      next.machine = { report.machine.tickTimers with keypad := next.machine.keypad } ∧
      ∀ reports, session.Ledger config reports → next.Ledger config (reports ++ [report]) := by
  obtain ⟨report, executed, returned⟩ := HostError.bind_eq_ok_iff.mp played
  cases returned
  refine ⟨report, executed, rfl, ?_, ?_⟩
  · cases session.heldKey? <;> cases (if isHalt report.condition then config.haltKey else none) <;>
      rfl
  · intro reports ledger
    constructor
    · rw [ledger.frames, List.length_append, List.length_singleton]
    · rw [ledger.cycles, total_concat]
    · rw [ledger.haltedFrames, List.countP_append, List.countP_singleton]
      cases halts : isHalt report.condition <;> simp only [halted, halts] <;> rfl
    · rw [List.getLast?_concat, Option.bind_some]
    · rfl

end Session

/-- The frames of a run and their reports. Each frame runs one batch on the machine that the frame
before it left, and ticks the timers once, however the batch ended. -/
def Reported (config : Config) (image : Except ReadFailure (List UInt8)) (cyclesPerFrame : Int)
    (reports : List BatchReport) : Prop :=
  ∀ (frame : Nat) (small : frame < reports.length), ∃ session next,
    sessionBefore config image frame = .ok session ∧
    session.machine.executeCycles cyclesPerFrame = .ok reports[frame] ∧
    sessionBefore config image (frame + 1) = .ok next ∧
    next.condition = reports[frame].condition ∧
    next.machine = { reports[frame].machine.tickTimers with keypad := next.machine.keypad }

theorem exists_reports (rate : config.cyclesPerFrame = .ok cycles)
    (reached : sessionBefore config image frame = .ok session) :
    ∃ reports, reports.length = frame ∧ Reported config image cycles reports ∧
      session.Ledger config reports := by
  induction frame generalizing session with
  | zero =>
    obtain ⟨cycles', machine, -, -, start⟩ := sessionBefore_eq_ok_iff.mp reached
    cases start
    exact ⟨[], rfl, fun frame small => absurd small (Nat.not_lt_zero frame),
      Session.ledger_start config machine⟩
  | succ frame ih =>
    obtain ⟨previous, cycles', before, rate', played⟩ := sessionBefore_succ_eq_ok_iff.mp reached
    rw [rate] at rate'
    cases rate'
    obtain ⟨reports, count, reported, ledger⟩ := ih before
    obtain ⟨report, executed, condition, ticked, entered⟩ := Session.exists_report played
    refine ⟨reports ++ [report], by simp [count], ?_, entered reports ledger⟩
    intro i small
    -- The new frame adds the last report; those before it stand as they did.
    by_cases earlier : i < reports.length
    · rw [List.getElem_append_left earlier]
      exact reported i earlier
    · have last : i = reports.length := by
        rw [List.length_append, List.length_singleton] at small
        omega
      subst last
      rw [List.getElem_concat_length rfl]
      subst count
      exact ⟨previous, session, before, executed, reached, condition, ticked⟩

/-- Batches that each fall short of their cycles only by a wait or a failure do so together. -/
theorem total_le_and_eq_iff
    (each : ∀ report ∈ reports, (report.executed : Int) ≤ cycles ∧
      ((report.executed : Int) = cycles ↔ report.halted = false ∧ report.failed = false)) :
    (total reports : Int) ≤ reports.length * cycles ∧
      ((total reports : Int) = reports.length * cycles ↔
        ∀ report ∈ reports, report.halted = false ∧ report.failed = false) := by
  induction reports with
  | nil => simp [total]
  | cons report rest ih =>
    obtain ⟨bound, full⟩ := each report List.mem_cons_self
    obtain ⟨rest_bound, all⟩ := ih fun later member => each later (List.mem_cons_of_mem _ member)
    have count : ((report :: rest).length : Int) * cycles = rest.length * cycles + cycles := by
      rw [List.length_cons, Int.natCast_add, Int.add_mul]
      simp
    rw [count, total_cons, List.forall_mem_cons, ← full, ← all]
    omega

/-- Where no report but the last one is of a failure, the last condition tells whether any is. -/
theorem Session.Ledger.exists_failed_iff (ledger : session.Ledger config reports)
    (earlier : ∀ report ∈ reports.dropLast, report.failed = false) :
    (∃ report ∈ reports, report.failed = true) ↔
      session.condition.any Condition.isFatal = true := by
  rw [ledger.condition]
  rcases List.eq_nil_or_concat reports with rfl | ⟨front, last, rfl⟩
  · simp
  · rw [List.concat_eq_append, List.dropLast_concat] at earlier
    rw [List.concat_eq_append, List.getLast?_concat, Option.bind_some]
    constructor
    · rintro ⟨report, member, failed⟩
      rcases List.mem_append.mp member with front | last
      · exact absurd ((earlier report front).symm.trans failed) Bool.false_ne_true
      · rw [List.mem_singleton.mp last] at failed
        exact failed
    · intro failed
      exact ⟨last, List.mem_append_right _ List.mem_cons_self, failed⟩

structure Accounts (config : Config) (image : Except ReadFailure (List UInt8))
    (cyclesPerFrame : Int) (result : Session) (reports : List BatchReport) : Prop where
  reported : Reported config image cyclesPerFrame reports
  reached : sessionBefore config image result.frames = .ok result
  ledger : result.Ledger config reports
  limit : (result.frames : Int) ≤ max config.frames 0
  bound : (result.cycles : Int) ≤ result.frames * cyclesPerFrame
  full : (result.cycles : Int) = result.frames * cyclesPerFrame ↔
    (∀ report ∈ reports, report.halted = false) ∧
      result.condition.any Condition.isFatal = false
  earlier : ∀ report ∈ reports.dropLast, report.failed = false
  early : (result.frames : Int) < config.frames →
    result.condition.any Condition.isFatal = true ∨
      (config.stopOnUnknown = true ∧ result.condition.any Log.Logger.isUnknown = true)

theorem stops_eq_true_iff {condition : Option Condition} :
    Session.stops config condition = true ↔
      condition.any Condition.isFatal = true ∨
        (config.stopOnUnknown = true ∧ condition.any Log.Logger.isUnknown = true) := by
  cases condition <;> simp [Session.stops]

/-- The frame after a report was played only because the report did not stop the run. -/
theorem not_failed_of_dropLast (ran : run config image logger = .ok (result, log))
    (reported : Reported config image cycles reports) (count : reports.length = result.frames) :
    ∀ report ∈ reports.dropLast, report.failed = false := by
  obtain ⟨-, before, -, -⟩ := run_eq_ok ran
  intro report member
  obtain ⟨i, small, rfl⟩ := List.mem_iff_getElem.mp member
  rw [List.length_dropLast] at small
  obtain ⟨session, next, -, -, reached, condition, -⟩ := reported i (by omega)
  obtain ⟨next', reached', goes⟩ := before (i + 1) (by omega)
  rw [reached] at reached'
  cases reached'
  obtain ⟨previous, cycles', -, -, played⟩ := sessionBefore_succ_eq_ok_iff.mp reached
  rw [(Session.follows_of_frame played).stopped, ← Bool.not_eq_true, stops_eq_true_iff, condition]
    at goes
  rw [List.getElem_dropLast, ← Bool.not_eq_true]
  exact fun failed => goes (.inl failed)

theorem exists_accounts (ran : run config image logger = .ok (result, log))
    (rate : config.cyclesPerFrame = .ok cycles) :
    ∃ reports, Accounts config image cycles result reports := by
  obtain ⟨reached, -, few, last⟩ := run_eq_ok ran
  obtain ⟨reports, count, reported, ledger⟩ := exists_reports rate reached
  have earlier := not_failed_of_dropLast ran reported count
  have failed := ledger.exists_failed_iff earlier
  obtain ⟨bound, full⟩ := @total_le_and_eq_iff cycles reports <| by
    intro report member
    obtain ⟨i, small, rfl⟩ := List.mem_iff_getElem.mp member
    obtain ⟨session, next, -, executed, -⟩ := reported i small
    exact executed_le_and_eq_iff executed (one_le_cyclesPerFrame rate)
  rw [← ledger.cycles, count] at bound full
  refine ⟨reports, reported, reached, ledger, by omega, bound, ?_, earlier, ?_⟩
  · have sound : (∀ report ∈ reports, report.failed = false) ↔
        result.condition.any Condition.isFatal = false := by
      rw [← Bool.not_eq_true, ← failed]
      simp
    simp only [full, imp_and, forall_and, sound]
  · intro stopped
    have stops := last (by omega)
    rwa [ledger.stopped, stops_eq_true_iff] at stops

end Headless

end Chip8
