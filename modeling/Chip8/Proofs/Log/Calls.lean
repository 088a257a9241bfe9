import Chip8.Proofs.Log.Conditions

/-!
Calls of a logger, and what they leave alone. A call may read the clock, add records behind those that
stand, and count the condition that it was given; it does nothing else (`goesOn_serve`), and neither do
any number of calls (`goesOn_after`). So the counts after calls are told by the conditions among them.
-/

namespace Chip8.Log

inductive Call where
  | debug (message : String)
  | info (message : String)
  | warning (message : String)
  | error (message : String)
  | critical (message : String)
  | log (level message : String)
  | condition (frame pc : Int) (condition : Option Condition)
  | runStart (settings : List (String × Value))
  | runEnd (results : List (String × Value))

def Call.condition? : Call → Option Condition
  | .condition _ _ given => given
  | _ => none

def given (calls : List Call) : List Condition := calls.filterMap Call.condition?

theorem given_cons (call : Call) (rest : List Call) :
    given (call :: rest) = call.condition?.toList ++ given rest := by
  rw [given, List.filterMap_cons]
  cases call.condition? <;> rfl

namespace Logger

def serve (logger : Logger) : Call → Logger
  | .debug message => logger.debug message
  | .info message => logger.info message
  | .warning message => logger.warning message
  | .error message => logger.error message
  | .critical message => logger.critical message
  | .log level message => logger.log level message
  | .condition frame pc condition => logger.condition frame pc condition
  | .runStart settings => logger.runStart settings
  | .runEnd results => logger.runEnd results

def after (logger : Logger) (calls : List Call) : Logger := calls.foldl serve logger

@[simp] theorem after_nil (logger : Logger) : logger.after [] = logger := rfl

theorem after_cons (logger : Logger) (call : Call) (rest : List Call) :
    logger.after (call :: rest) = (logger.serve call).after rest := rfl

theorem after_append (logger : Logger) (calls later : List Call) :
    logger.after (calls ++ later) = (logger.after calls).after later := List.foldl_append

/-- A logger has gone on to another while conditions were counted: it may have read the clock and written
further records. -/
def GoesOn (before : Logger) (conditions : List Condition) (after : Logger) : Prop :=
  ∃ (clock : Clock) (later : Array Record), after = { before with
    clock
    records := before.records ++ later
    tally := before.tally.addAll conditions }

namespace GoesOn

variable {logger before after : Logger} {conditions : List Condition}

theorem refl (logger : Logger) : logger.GoesOn [] logger :=
  ⟨logger.clock, #[], by rw [Array.append_empty, Tally.addAll_nil]⟩

theorem trans {further : List Condition} (first : before.GoesOn conditions logger)
    (second : logger.GoesOn further after) : before.GoesOn (conditions ++ further) after := by
  obtain ⟨_, written, rfl⟩ := first
  obtain ⟨clock, later, rfl⟩ := second
  refine ⟨clock, written ++ later, ?_⟩
  rw [Array.append_assoc, Tally.addAll_append]

theorem format (went : before.GoesOn conditions after) : after.format = before.format := by
  obtain ⟨_, _, rfl⟩ := went
  rfl

theorem threshold (went : before.GoesOn conditions after) :
    after.threshold = before.threshold := by
  obtain ⟨_, _, rfl⟩ := went
  rfl

theorem tally (went : before.GoesOn conditions after) :
    after.tally = before.tally.addAll conditions := by
  obtain ⟨_, _, rfl⟩ := went
  rfl

theorem records (went : before.GoesOn conditions after) :
    before.records.toList <+: after.records.toList := by
  obtain ⟨_, later, rfl⟩ := went
  exact ⟨later.toList, Array.toList_append.symm⟩

theorem elapsed (went : before.GoesOn conditions after) :
    before.GoesOn conditions after.elapsed.2 := by
  obtain ⟨_, later, rfl⟩ := went
  exact ⟨_, later, rfl⟩

theorem write (went : before.GoesOn conditions after) (level message : String) :
    before.GoesOn conditions (after.write level message) := by
  obtain ⟨clock, later, rfl⟩ := went
  unfold Logger.write
  split
  · exact ⟨_, later.push _, by rw [Array.append_push]; rfl⟩
  · exact ⟨clock, later.push _, by rw [Array.append_push]⟩

theorem log (went : before.GoesOn conditions after) (level message : String) :
    before.GoesOn conditions (after.log level message) := by
  unfold Logger.log
  split
  · exact went.write level message
  · exact went

theorem listing (went : before.GoesOn conditions after) (entries : List (String × String)) :
    before.GoesOn conditions (after.listing entries) := by
  induction entries generalizing after with
  | nil => exact went
  | cons entry rest ih => exact ih (went.log _ _)

theorem count (went : before.GoesOn conditions after) (condition : Condition) :
    before.GoesOn (conditions ++ [condition]) (after.count condition) :=
  went.trans ⟨after.clock, #[], by rw [Array.append_empty]; rfl⟩

end GoesOn

theorem goesOn_serve (logger : Logger) (call : Call) :
    logger.GoesOn call.condition?.toList (logger.serve call) := by
  have start := GoesOn.refl logger
  cases call with
  | condition frame pc given =>
    cases given with
    | none => exact start
    | some condition => exact (start.count condition).log _ _
  | runStart settings => exact (((start.log _ _).log _ _).listing _).log _ _
  | runEnd results => exact ((((start.elapsed.log _ _).log _ _).listing _).listing _).log _ _
  | _ => exact start.log _ _

/-- Calls leave a logger as it was, but for its clock, further records and counted conditions. -/
theorem goesOn_after (logger : Logger) (calls : List Call) :
    logger.GoesOn (given calls) (logger.after calls) := by
  induction calls generalizing logger with
  | nil => exact GoesOn.refl logger
  | cons call rest ih =>
    rw [given_cons, after_cons]
    exact (goesOn_serve logger call).trans (ih (logger.serve call))

theorem records_append (logger : Logger) (calls later : List Call) :
    (logger.after calls).records.toList <+: (logger.after (calls ++ later)).records.toList := by
  rw [after_append]
  exact (goesOn_after (logger.after calls) later).records

end Logger

end Chip8.Log
