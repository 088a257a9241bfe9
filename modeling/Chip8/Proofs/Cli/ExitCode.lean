import Chip8.Cli.Command
import Chip8.Proofs.Headless.Accounts

/-!
What the command makes of a run. With no option left blank it plays the run of its settings, whatever
its logger writes, and its exit code shows the last condition. So the accounts of a run tell the exit
code: `run_accounts` proves them for all settings that a run accepts.
-/

namespace Chip8

open Machine Headless

namespace Headless.Session

variable {config : Config} {cycles : Int} {frames : Nat} {session result : Session}
  {logger log : Log.Logger}

/-- The logger of a run has no part in how it goes. -/
theorem exists_play_logger (played : play config cycles frames session logger = .ok (result, log))
    (other : Log.Logger) : ∃ written, play config cycles frames session other = .ok (result, written) := by
  induction frames generalizing session logger other with
  | zero =>
    cases played
    exact ⟨other, rfl⟩
  | succ frames ih =>
    cases stopped : session.stopped with
    | true =>
      rw [play, if_pos stopped] at played ⊢
      cases played
      exact ⟨other, rfl⟩
    | false =>
      rw [play, stopped, if_neg Bool.false_ne_true] at played ⊢
      obtain ⟨⟨next, logged⟩, advanced, rest⟩ := HostError.bind_eq_ok_iff.mp played
      obtain ⟨next', first, paired⟩ := HostError.bind_eq_ok_iff.mp advanced
      cases paired
      obtain ⟨written, goes⟩ := ih rest (next.logFrame other)
      have first' : session.advance config cycles other = .ok (next, next.logFrame other) :=
        HostError.bind_eq_ok_iff.mpr ⟨next, first, rfl⟩
      exact ⟨written, HostError.bind_eq_ok_iff.mpr ⟨_, first', goes⟩⟩

end Headless.Session

namespace Cli

namespace Arguments

variable {arguments : Arguments} (given : arguments.blanks = [])
include given

theorem isBlank_of_given (flag : Flag) : arguments.isBlank flag = false := by
  rw [isBlank, given]
  rfl

theorem require_of_given (flag : Flag) : arguments.require flag = .ok () := by
  rw [require, isBlank_of_given given flag]
  rfl

theorem settings_of_given (cyclesPerFrame : Int) :
    arguments.settings cyclesPerFrame = arguments.config.settings cyclesPerFrame := by
  have filled (name : String) : arguments.isBlankSetting name = false := by
    rw [isBlankSetting]
    cases Flag.spelled? ("--" ++ name) with
    | none => rfl
    | some flag => exact isBlank_of_given given flag
  simp only [settings, filled, Bool.false_eq_true, if_false, List.map_id']

end Arguments

theorem exitCode_eq_one_iff {session : Session} :
    exitCode session = 1 ↔ session.condition.any Condition.isFatal = true := by
  unfold exitCode
  split <;> simp_all

theorem exists_play_of_run {arguments : Arguments} {image : Except ReadFailure (List UInt8)}
    {logger log : Log.Logger} {result : Session} (given : arguments.blanks = [])
    {readImage : String → Except ReadFailure (List UInt8)}
    (read : readImage arguments.config.imagePath = image)
    (ran : Headless.run arguments.config image logger = .ok (result, log)) (clock : Log.Clock) :
    ∃ outcome, play arguments readImage clock = .ok outcome ∧ outcome.code = exitCode result := by
  obtain ⟨cyclesPerFrame, rate, ran⟩ := HostError.bind_eq_ok_iff.mp ran
  obtain ⟨settings, listed, ran⟩ := HostError.bind_eq_ok_iff.mp ran
  obtain ⟨machine, loaded, ran⟩ := HostError.bind_eq_ok_iff.mp ran
  obtain ⟨frames, limited, ran⟩ := HostError.bind_eq_ok_iff.mp ran
  obtain ⟨⟨session, logged⟩, played, ended⟩ := HostError.bind_eq_ok_iff.mp ran
  cases ended
  obtain ⟨written, again⟩ := Session.exists_play_logger played
    ((Log.Logger.create logFormat arguments.config.logLevel clock).runStart settings)
  have opened : arguments.logger logFormat clock =
      .ok (Log.Logger.create logFormat arguments.config.logLevel clock) := by
    simp only [Arguments.logger, Arguments.require_of_given given]
    rfl
  have rate' : arguments.cyclesPerFrame = .ok cyclesPerFrame := by
    simp only [Arguments.cyclesPerFrame, Arguments.require_of_given given]
    exact rate
  have loaded' : arguments.machine (readImage arguments.config.imagePath) = .ok machine := by
    simp only [Arguments.machine, Arguments.require_of_given given, read]
    exact loaded
  have limited' : arguments.frameCount = .ok frames := by
    simp only [Arguments.frameCount, Arguments.require_of_given given]
    exact limited
  rw [← Arguments.settings_of_given given] at listed
  rw [← Arguments.playFrames_eq_play (Arguments.isBlank_of_given given _)] at again
  let output := (written.runEnd result.results).output ++ screenOutput arguments result.machine
  refine ⟨⟨exitCode result, output⟩, ?_, rfl⟩
  rw [play, HostError.bind_eq_ok_iff]
  refine ⟨_, opened, HostError.bind_eq_ok_iff.mpr ⟨_, rate', ?_⟩⟩
  refine HostError.bind_eq_ok_iff.mpr ⟨_, listed, HostError.bind_eq_ok_iff.mpr ⟨_, loaded', ?_⟩⟩
  refine HostError.bind_eq_ok_iff.mpr ⟨_, limited', ?_⟩
  exact HostError.bind_eq_ok_iff.mpr ⟨_, again, rfl⟩

/-- The accounts of a run agree with its frames, and the exit code of the command with the accounts.
A run that accepts its settings and its image ends with a result, and the command that plays it exits
with one exactly if a frame failed. -/
theorem run_accounts {config : Config} {image : List UInt8} {cyclesPerFrame : Int}
    (accepts : config.Accepts image cyclesPerFrame) (logger : Log.Logger) :
    ∃ result log reports, Headless.run config (.ok image) logger = .ok (result, log) ∧
      Accounts config (.ok image) cyclesPerFrame result reports ∧
      ∀ (arguments : Arguments) (readImage : String → Except ReadFailure (List UInt8))
        (clock : Log.Clock),
        arguments.config = config → arguments.blanks = [] →
        readImage config.imagePath = .ok image →
        ∃ outcome, play arguments readImage clock = .ok outcome ∧
          (outcome.code = 1 ↔ ∃ report ∈ reports, report.failed = true) := by
  obtain ⟨result, log, ran⟩ := accepts.exists_run logger
  obtain ⟨reports, accounts⟩ := exists_accounts ran accepts.rate
  refine ⟨result, log, reports, ran, accounts, ?_⟩
  rintro arguments readImage clock rfl given read
  obtain ⟨outcome, played, code⟩ := exists_play_of_run given read ran clock
  refine ⟨outcome, played, ?_⟩
  rw [code, exitCode_eq_one_iff, accounts.ledger.exists_failed_iff accounts.earlier]

def endlessFrames : Config := { frames := 0x8000000000000000 }

def longHaltKey : Config := { haltKey := some (Nat.pow 16 3600 - 1 : Nat) }

def jumpPastEnd : List UInt8 := [0x1F, 0xFF]

/-- The other conditions do not make a run accept its settings. -/
theorem run_accounts_refused :
    jumpPastEnd.length ≤ programCapacity ∧
    (endlessFrames.cyclesPerFrame = .ok 11 ∧ endlessFrames.seed = 0 ∧
      Headless.run endlessFrames (.ok jumpPastEnd) (Log.Logger.create {} "CRITICAL" ⟨[]⟩) =
        .error (.outOfRange 0x8000000000000000)) ∧
    (longHaltKey.cyclesPerFrame = .ok 11 ∧ longHaltKey.seed = 0 ∧
      Headless.run longHaltKey (.ok jumpPastEnd) (Log.Logger.create {} "CRITICAL" ⟨[]⟩) =
        .error .numberTooLong) := by
  have rate : endlessFrames.cyclesPerFrame = .ok 11 := rfl
  have rate' : longHaltKey.cyclesPerFrame = .ok 11 := rfl
  have listed : requireListable (endlessFrames.settings 11) = .ok (endlessFrames.settings 11) :=
    requireListable_settings (by decide +kernel)
  have loaded : endlessFrames.machine (.ok jumpPastEnd) =
      .ok ((Machine.create ⟨0, 0⟩ {}).copyImage jumpPastEnd) := rfl
  have long : Text.isListable (Nat.pow 16 3600 - 1 : Nat) = false := by decide +kernel
  exact ⟨by decide, ⟨rate, rfl, run_of_endless_frames rate listed loaded (by decide) _⟩,
    rate', rfl, run_of_long_haltKey rate' rfl long _⟩

def tenFrames : Config := { frames := 10 }

theorem run_accounts_jumpPastEnd :
    tenFrames.Accepts jumpPastEnd 11 ∧
    ∃ result log reports,
      Headless.run tenFrames (.ok jumpPastEnd) (Log.Logger.create {} "CRITICAL" ⟨[]⟩) =
        .ok (result, log) ∧
      Accounts tenFrames (.ok jumpPastEnd) 11 result reports ∧
      ∃ outcome, play { config := tenFrames } (fun _ => .ok jumpPastEnd) ⟨[]⟩ = .ok outcome ∧
        (outcome.code = 1 ↔ ∃ report ∈ reports, report.failed = true) := by
  have accepts : tenFrames.Accepts jumpPastEnd 11 :=
    ⟨by decide, rfl, by decide, by decide, by decide, by decide +kernel⟩
  obtain ⟨result, log, reports, ran, accounts, exits⟩ :=
    run_accounts accepts (Log.Logger.create {} "CRITICAL" ⟨[]⟩)
  exact ⟨accepts, result, log, reports, ran, accounts,
    exits { config := tenFrames } (fun _ => .ok jumpPastEnd) ⟨[]⟩ rfl rfl rfl⟩

end Cli

end Chip8
