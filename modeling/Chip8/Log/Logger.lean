import Chip8.Decimal.Fixed
import Chip8.Log.Clock
import Chip8.Log.Level
import Chip8.Log.Tally

/-!
A logger keeps the records that pass its threshold. Whether a record passes depends on the ranks of
the two levels alone; a record that does not pass leaves the logger as it was, its clock included
(`log_of_not_admits`), and one that passes is added behind the others (`log_of_admits`).
-/

namespace Chip8.Log

structure Format where
  name : String := "chipcore"
  coloured : Bool := false
  stamped : Bool := true

/-- A record that was written. The level is kept as it was given. -/
structure Record where
  level : String
  message : String
  /-- Seconds since the logger was made, where records are stamped. -/
  elapsed : Option Float

structure Logger where
  format : Format
  threshold : Nat
  started : Float
  clock : Clock
  records : Array Record
  tally : Tally

def seconds (elapsed : Float) : String := Decimal.fixed 2 (Decimal.Binary.ofFloat elapsed)

def styleSequence (style : String) : String := "\x1b[" ++ style ++ "m"

/-- The level of a record, right-aligned in brackets. A style precedes it only if its text has one,
but the plain style always follows it. -/
def Format.levelText (format : Format) (level : String) : String :=
  let bracketed := "[" ++ Text.padLeft 8 ' ' level ++ "]"
  if format.coloured then
    ((Level.style? level).map styleSequence).getD "" ++ bracketed ++ styleSequence Level.plain
  else bracketed

def Record.render (format : Format) (record : Record) : String :=
  let stamp := match record.elapsed with
    | some elapsed => "[" ++ Text.padLeft 8 ' ' (seconds elapsed) ++ "s]"
    | none => ""
  stamp ++ format.levelText record.level ++ "[" ++ format.name ++ "] " ++ record.message

namespace Logger

/-- A logger takes its first reading when it is made. -/
def create (format : Format) (level : String) (clock : Clock) : Logger :=
  let (started, clock) := clock.read
  ⟨format, Level.rankOf level, started, clock, #[], []⟩

def admits (logger : Logger) (level : String) : Bool := logger.threshold ≤ Level.rankOf level

def elapsed (logger : Logger) : Float × Logger :=
  let (now, clock) := logger.clock.read
  (now - logger.started, { logger with clock })

def write (logger : Logger) (level message : String) : Logger :=
  if logger.format.stamped then
    let (elapsed, logger) := logger.elapsed
    { logger with records := logger.records.push ⟨level, message, some elapsed⟩ }
  else { logger with records := logger.records.push ⟨level, message, none⟩ }

def log (logger : Logger) (level message : String) : Logger :=
  if logger.admits level then logger.write level message else logger

def debug (logger : Logger) (message : String) : Logger := logger.log Level.debug.name message

def info (logger : Logger) (message : String) : Logger := logger.log Level.info.name message

def warning (logger : Logger) (message : String) : Logger := logger.log Level.warning.name message

def error (logger : Logger) (message : String) : Logger := logger.log Level.error.name message

def critical (logger : Logger) (message : String) : Logger := logger.log Level.critical.name message

def output (logger : Logger) : String :=
  String.join (logger.records.toList.map fun record => record.render logger.format ++ "\n")

theorem create_threshold (format : Format) (level : String) (clock : Clock) :
    (create format level clock).threshold = Level.rankOf level := rfl

variable {logger : Logger}

theorem write_of_unstamped (unstamped : logger.format.stamped = false) (level message : String) :
    logger.write level message =
      { logger with records := logger.records.push ⟨level, message, none⟩ } := by
  rw [write, unstamped]
  rfl

theorem log_of_admits (unstamped : logger.format.stamped = false) {level : String}
    (message : String) (admitted : logger.threshold ≤ Level.rankOf level) :
    logger.log level message =
      { logger with records := logger.records.push ⟨level, message, none⟩ } := by
  have passes : logger.admits level = true := decide_eq_true admitted
  rw [log, if_pos passes, write_of_unstamped unstamped]

theorem log_of_not_admits {level : String} (message : String)
    (low : logger.admits level = false) : logger.log level message = logger := by
  simp [log, low]

end Logger

end Chip8.Log
