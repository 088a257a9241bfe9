/-! The options of the command line, their spellings, and what each expects. -/

namespace Chip8.Cli

inductive Flag where
  | help
  | frames
  | frequency
  | fps
  | seed
  | haltKey
  | shiftVx
  | jumpVx
  | incrementIndex
  | stopOnNoop
  | showDisplay
  | noProgress
  | logLevel
  deriving DecidableEq, Repr

namespace Flag

def all : List Flag := [
  help, frames, frequency, fps, seed, haltKey, shiftVx, jumpVx, incrementIndex, stopOnNoop,
  showDisplay, noProgress, logLevel]

def spellings : Flag → List String
  | help => ["-h", "--help"]
  | frames => ["--frames"]
  | frequency => ["--frequency"]
  | fps => ["--fps"]
  | seed => ["--seed"]
  | haltKey => ["--halt_key"]
  | shiftVx => ["--shift_vx"]
  | jumpVx => ["--jump_vx"]
  | incrementIndex => ["--increment_index"]
  | stopOnNoop => ["--stop_on_noop"]
  | showDisplay => ["--show_display"]
  | noProgress => ["--no_progress"]
  | logLevel => ["--log_level"]

def takesValue : Flag → Bool
  | frames | frequency | fps | seed | haltKey | logLevel => true
  | _ => false

def title (flag : Flag) : String := "/".intercalate flag.spellings

def catalogue : List (String × Flag) :=
  all.flatMap fun flag => flag.spellings.map fun spelling => (spelling, flag)

def spelled? (text : String) : Option Flag := catalogue.lookup text

end Flag

end Chip8.Cli
