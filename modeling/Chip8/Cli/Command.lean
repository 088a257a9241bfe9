import Chip8.Cli.Arguments
import Chip8.Headless.Session

/-!
What the command does: it plays a run, shows the screen if asked to, and reports how it ended. A
blank option is listed as `[]`, and the command fails where it needs the value. `playFrames_eq_play`
says that a run is not affected by blanks as long as the key to hold down is given.
-/

namespace Chip8.Cli

structure Outcome where
  code : Nat
  output : String

def logFormat : Log.Format := { coloured := false, stamped := true }

namespace Arguments

def isBlank (arguments : Arguments) (flag : Flag) : Bool := arguments.blanks.contains flag

def require (arguments : Arguments) (flag : Flag) : Except HostError Unit :=
  if arguments.isBlank flag then .error (.valueBlank flag.title) else .ok ()

def cyclesPerFrame (arguments : Arguments) : Except HostError Int := do
  arguments.require .frequency
  arguments.require .fps
  arguments.config.cyclesPerFrame

def isBlankSetting (arguments : Arguments) (name : String) : Bool :=
  (Flag.spelled? ("--" ++ name)).any arguments.isBlank

def settings (arguments : Arguments) (cyclesPerFrame : Int) : List (String × Log.Value) :=
  (arguments.config.settings cyclesPerFrame).map fun setting =>
    if arguments.isBlankSetting setting.1 then (setting.1, .text "[]") else setting

def logger (arguments : Arguments) (format : Log.Format) (clock : Log.Clock) :
    Except HostError Log.Logger := do
  arguments.require .logLevel
  return Log.Logger.create format arguments.config.logLevel clock

def machine (arguments : Arguments) (image : Except ReadFailure (List UInt8)) :
    Except HostError Machine := do
  arguments.require .seed
  arguments.config.machine image

def frameCount (arguments : Arguments) : Except HostError Nat := do
  arguments.require .frames
  arguments.config.frameCount

def advance (arguments : Arguments) (cyclesPerFrame : Int) (session : Headless.Session)
    (logger : Log.Logger) : Except HostError (Headless.Session × Log.Logger) := do
  let (session, logger) ← session.advance arguments.config cyclesPerFrame logger
  if Headless.Session.isHalt session.condition then arguments.require .haltKey
  return (session, logger)

def playFrames (arguments : Arguments) (cyclesPerFrame : Int) :
    Nat → Headless.Session → Log.Logger → Except HostError (Headless.Session × Log.Logger)
  | 0, session, logger => .ok (session, logger)
  | frames + 1, session, logger =>
    if session.stopped then .ok (session, logger)
    else do
      let (session, logger) ← arguments.advance cyclesPerFrame session logger
      arguments.playFrames cyclesPerFrame frames session logger

theorem advance_eq_advance {arguments : Arguments} (given : arguments.isBlank .haltKey = false)
    (cyclesPerFrame : Int) (session : Headless.Session) (logger : Log.Logger) :
    arguments.advance cyclesPerFrame session logger =
      session.advance arguments.config cyclesPerFrame logger := by
  simp only [advance, require, given]
  cases session.advance arguments.config cyclesPerFrame logger with
  | error error => rfl
  | ok next =>
    obtain ⟨next, logger⟩ := next
    by_cases halt : Headless.Session.isHalt next.condition <;>
      simp [bind, Except.bind, halt] <;> rfl

theorem playFrames_eq_play {arguments : Arguments} (given : arguments.isBlank .haltKey = false)
    (cyclesPerFrame : Int) (frames : Nat) (session : Headless.Session) (logger : Log.Logger) :
    arguments.playFrames cyclesPerFrame frames session logger =
      Headless.Session.play arguments.config cyclesPerFrame frames session logger := by
  induction frames generalizing session logger with
  | zero => rfl
  | succ frames ih =>
    simp only [playFrames, Headless.Session.play, advance_eq_advance given, ih]

end Arguments

def screenOutput (arguments : Arguments) (machine : Machine) : String :=
  if arguments.showDisplay then Screen.text machine.memory "#" "." ++ "\n" else ""

def exitCode (session : Headless.Session) : Nat :=
  if session.condition.any Condition.isFatal then 1 else 0

def play (arguments : Arguments) (readImage : String → Except ReadFailure (List UInt8))
    (clock : Log.Clock) : Except HostError Outcome := do
  let logger ← arguments.logger logFormat clock
  let cyclesPerFrame ← arguments.cyclesPerFrame
  let settings ← Headless.requireListable (arguments.settings cyclesPerFrame)
  let machine ← arguments.machine (readImage arguments.config.imagePath)
  let frames ← arguments.frameCount
  let start := Headless.Session.start machine
  let (session, logger) ←
    arguments.playFrames cyclesPerFrame frames start (logger.runStart settings)
  let logger := logger.runEnd session.results
  return {
    code := exitCode session
    output := logger.output ++ screenOutput arguments session.machine }

end Chip8.Cli
