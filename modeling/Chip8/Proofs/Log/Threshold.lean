import Chip8.Proofs.Log.Calls

/-!
The threshold of a logger whose records bear no stamps. Raised to some rank, it takes the records below
that rank away and nothing else, whether it is raised before the calls or after them: two loggers that
stand beside each other in this way do so after every call (`Sieved.serve`), since what a call writes
hangs on the clock and the counts alone. `threshold_only_filters` is the result.
-/

namespace Chip8.Log

def Record.reaches (record : Record) (rank : Nat) : Bool := rank ≤ Level.rankOf record.level

namespace Logger

def raised (logger : Logger) (threshold : Nat) : Logger :=
  { logger with threshold, records := logger.records.filter (·.reaches threshold) }

/-- A logger without stamps stands beside one with a higher threshold, and these two differ in nothing
else than the records in between. -/
structure Sieved (threshold : Nat) (all passed : Logger) : Prop where
  unstamped : all.format.stamped = false
  low : all.threshold ≤ threshold
  raised : passed = all.raised threshold

variable {logger all passed : Logger} {threshold : Nat}

theorem raised_log (unstamped : logger.format.stamped = false) (low : logger.threshold ≤ threshold)
    (level message : String) :
    (logger.raised threshold).log level message = (logger.log level message).raised threshold := by
  have unstamped_raised : (logger.raised threshold).format.stamped = false := unstamped
  by_cases high : threshold ≤ Level.rankOf level
  · rw [log_of_admits unstamped message (Nat.le_trans low high),
      log_of_admits unstamped_raised message high]
    simp [raised, Record.reaches, high]
  · have dropped : (logger.raised threshold).admits level = false := decide_eq_false high
    rw [log_of_not_admits message dropped]
    by_cases admitted : logger.threshold ≤ Level.rankOf level
    · rw [log_of_admits unstamped message admitted]
      simp [raised, Record.reaches, high]
    · rw [log_of_not_admits message (decide_eq_false admitted)]

namespace Sieved

theorem log (sieved : Sieved threshold all passed) (level message : String) :
    Sieved threshold (all.log level message) (passed.log level message) := by
  obtain ⟨unstamped, low, rfl⟩ := sieved
  have went := (GoesOn.refl all).log level message
  refine ⟨?_, ?_, raised_log unstamped low level message⟩
  · rw [went.format, unstamped]
  · rw [went.threshold]
    exact low

theorem elapsed (sieved : Sieved threshold all passed) :
    passed.elapsed.1 = all.elapsed.1 ∧ Sieved threshold all.elapsed.2 passed.elapsed.2 := by
  obtain ⟨unstamped, low, rfl⟩ := sieved
  exact ⟨rfl, unstamped, low, rfl⟩

theorem count (sieved : Sieved threshold all passed) (condition : Condition) :
    (passed.count condition).tally = (all.count condition).tally ∧
      Sieved threshold (all.count condition) (passed.count condition) := by
  obtain ⟨unstamped, low, rfl⟩ := sieved
  exact ⟨rfl, unstamped, low, rfl⟩

theorem listing (sieved : Sieved threshold all passed) (entries : List (String × String)) :
    Sieved threshold (all.listing entries) (passed.listing entries) := by
  induction entries generalizing all passed with
  | nil => exact sieved
  | cons entry rest ih => exact ih (sieved.log _ _)

theorem condition (sieved : Sieved threshold all passed) (frame pc : Int) (given : Option Condition) :
    Sieved threshold (all.condition frame pc given) (passed.condition frame pc given) := by
  cases given with
  | none => exact sieved
  | some condition =>
    -- The level of the record hangs on the tally, which both loggers have in common.
    obtain ⟨tally, counted⟩ := sieved.count condition
    rw [Logger.condition, Logger.condition, tally]
    exact counted.log _ _

theorem runStart (sieved : Sieved threshold all passed) (settings : List (String × Value)) :
    Sieved threshold (all.runStart settings) (passed.runStart settings) :=
  (((sieved.log _ _).log _ _).listing _).log _ _

theorem runEnd (sieved : Sieved threshold all passed) (results : List (String × Value)) :
    Sieved threshold (all.runEnd results) (passed.runEnd results) := by
  obtain ⟨reading, read⟩ := sieved.elapsed
  have tally : passed.elapsed.2.tally = all.elapsed.2.tally := by
    rw [read.raised]
    rfl
  rw [runEnd_eq, runEnd_eq, reading, tally]
  exact ((((read.log _ _).log _ _).listing _).listing _).log _ _

theorem serve (sieved : Sieved threshold all passed) (call : Call) :
    Sieved threshold (all.serve call) (passed.serve call) := by
  cases call with
  | condition frame pc given => exact sieved.condition frame pc given
  | runStart settings => exact sieved.runStart settings
  | runEnd results => exact sieved.runEnd results
  | _ => exact sieved.log _ _

theorem after (sieved : Sieved threshold all passed) (calls : List Call) :
    Sieved threshold (all.after calls) (passed.after calls) := by
  induction calls generalizing all passed with
  | nil => exact sieved
  | cons call rest ih => exact ih (sieved.serve call)

end Sieved

theorem sieved_create {format : Format} (unstamped : format.stamped = false) (level : String)
    (clock : Clock) :
    Sieved (Level.rankOf level) (create format "DEBUG" clock) (create format level clock) := by
  refine ⟨unstamped, ?_, rfl⟩
  rw [create_threshold, Level.rankOf_debug]
  exact Nat.zero_le _

theorem records_condition (unstamped : logger.format.stamped = false) (lowest : logger.threshold = 0)
    (frame pc : Int) (condition : Condition) :
    (logger.condition frame pc (some condition)).records = logger.records.push
      ⟨(conditionLevel (logger.tally.add condition.name) condition).name,
        conditionMessage frame pc condition, none⟩ := by
  have unstamped_counted : (logger.count condition).format.stamped = false := unstamped
  have lowest_counted : (logger.count condition).threshold = 0 := lowest
  have admitted : (logger.count condition).threshold ≤
      Level.rankOf (conditionLevel (logger.tally.add condition.name) condition).name := by
    rw [lowest_counted]
    exact Nat.zero_le _
  exact congrArg Logger.records (log_of_admits unstamped_counted _ admitted)

/-- After any calls, a condition is written at the level that the conditions before it leave. -/
theorem exists_record_of_condition (unstamped : logger.format.stamped = false)
    (lowest : logger.threshold = 0) (uncounted : logger.tally = []) (before : List Call)
    (frame pc : Int) (condition : Condition) :
    ∃ record : Record,
      ((logger.after before).condition frame pc (some condition)).records =
        (logger.after before).records.push record ∧
      record.message = conditionMessage frame pc condition ∧
      ∃ named : Level, record.level = named.name ∧ Ranked (given before) condition named := by
  have went := goesOn_after logger before
  have unstamped_then : (logger.after before).format.stamped = false := went.format ▸ unstamped
  have lowest_then : (logger.after before).threshold = 0 := went.threshold.trans lowest
  refine ⟨_, records_condition unstamped_then lowest_then frame pc condition, rfl, _, rfl, ?_⟩
  rw [went.tally, uncounted]
  exact ranked_conditionLevel (given before) condition

/-- The level of a logger only filters. A logger at any level writes those records of one at the lowest
level that reach it, in the same order and with the same text. Both count the same, namely every
condition by its class. A condition is one record: an error if it is fatal, a warning if it is the first
unknown instruction, and of the lowest level otherwise. Levels are read without regard to case, and a
text that names none ranks as information. -/
theorem threshold_only_filters (name : String) (coloured : Bool) (clock : Clock) (level : String)
    (calls : List Call) :
    let format : Format := { name, coloured, stamped := false }
    let fresh := create format "DEBUG" clock
    let all := fresh.after calls
    let passed := (create format level clock).after calls
    let reaches := fun record : Record => Level.rankOf level ≤ Level.rankOf record.level
    passed.records = all.records.filter reaches ∧
    passed.output = String.join
      ((all.records.toList.filter reaches).map fun record => record.render format ++ "\n") ∧
    passed.tally = all.tally ∧
    Counts (given calls) all.tally ∧
    (∀ before frame pc condition, before ++ [.condition frame pc (some condition)] <+: calls →
      ∃ record : Record,
        (fresh.after (before ++ [.condition frame pc (some condition)])).records =
          (fresh.after before).records.push record ∧
        ((fresh.after before).records.push record).toList <+: all.records.toList ∧
        record.message = conditionMessage frame pc condition ∧
        ∃ named : Level, record.level = named.name ∧ Ranked (given before) condition named) ∧
    (∀ before frame pc, before ++ [.condition frame pc none] <+: calls →
      fresh.after (before ++ [.condition frame pc none]) = fresh.after before) ∧
    (∀ (text : String) (named : Level), Level.spells text named.name = true →
      Level.rankOf text = named.rank) ∧
    ∀ text : String, (∀ named : Level, Level.spells text named.name = false) →
      Level.rankOf text = Level.info.rank := by
  intro format fresh all passed reaches
  have sieved : Sieved (Level.rankOf level) all passed :=
    (sieved_create rfl level clock).after calls
  have records : passed.records = all.records.filter reaches := by
    rw [sieved.raised]
    rfl
  have went := goesOn_after (create format level clock) calls
  refine ⟨records, ?_, ?_, ?_, ?_, ?_, fun _ _ => Level.rankOf_of_spells,
    fun _ => Level.rankOf_of_unnamed⟩
  · rw [output, records, Array.toList_filter, went.format]
    rfl
  · rw [sieved.raised]
    rfl
  · rw [(goesOn_after fresh calls).tally]
    exact counts_addAll (given calls)
  · rintro before frame pc condition ⟨later, rfl⟩
    have unstamped : fresh.format.stamped = false := rfl
    have lowest : fresh.threshold = 0 := Level.rankOf_debug
    have uncounted : fresh.tally = [] := rfl
    obtain ⟨record, written, told⟩ :=
      exists_record_of_condition unstamped lowest uncounted before frame pc condition
    have kept := records_append fresh (before ++ [.condition frame pc (some condition)]) later
    rw [after_append fresh before] at kept ⊢
    exact ⟨record, written, written ▸ kept, told⟩
  · rintro before frame pc -
    rw [after_append]
    rfl

end Logger

end Chip8.Log
