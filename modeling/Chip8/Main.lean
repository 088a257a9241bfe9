import Chip8.Cli.Command

/-!
The command line program. It plays the same run as `Cli.play`, but frame by frame, with the time of
day on the clock of the log and every record printed as soon as it is written.
-/

namespace Chip8.Cli

def usage : String :=
  "usage: chip8 [options] rom\n\noptions:\n" ++
    String.join (Flag.all.map fun flag =>
      "  " ++ ", ".intercalate flag.spellings ++ (if flag.takesValue then " VALUE" else "") ++ "\n")

def now : IO Float := do
  return (← IO.monoNanosNow).toFloat / 1000000000

def atPresent (logger : Log.Logger) : IO Log.Logger := do
  return { logger with clock := ⟨[← now]⟩ }

def printRecords (logger : Log.Logger) : IO Log.Logger := do
  let stdout ← IO.getStdout
  stdout.putStr logger.output
  stdout.flush
  return { logger with records := #[] }

def orFail {α : Type} : Except HostError α → IO α
  | .ok value => pure value
  | .error error => throw (IO.userError error.message)

def failureOf : IO.Error → ReadFailure
  | .noFileOrDirectory .. => .missing
  | _ => .other

def readImage (path : String) : IO (Except ReadFailure (List UInt8)) := do
  if !isPath path then return .error .pathInvalid
  try
    let bytes ← IO.FS.readBinFile path
    return .ok bytes.toList
  catch error => return .error (failureOf error)

def playFramesNow (arguments : Arguments) (cyclesPerFrame : Int) :
    Nat → Headless.Session → Log.Logger → IO (Headless.Session × Log.Logger)
  | 0, session, logger => pure (session, logger)
  | frames + 1, session, logger =>
    if session.stopped then pure (session, logger)
    else do
      let logger ← atPresent logger
      let (session, logger) ← orFail (arguments.advance cyclesPerFrame session logger)
      playFramesNow arguments cyclesPerFrame frames session (← printRecords logger)

def playNow (arguments : Arguments) : IO UInt32 := do
  let coloured ← (← IO.getStdout).isTty
  let logger ← orFail (arguments.logger { logFormat with coloured } ⟨[← now]⟩)
  let cyclesPerFrame ← orFail arguments.cyclesPerFrame
  let settings ← orFail (Headless.requireListable (arguments.settings cyclesPerFrame))
  let logger ← printRecords (logger.runStart settings)
  let machine ← orFail (arguments.machine (← readImage arguments.config.imagePath))
  let frames ← orFail arguments.frameCount
  let start := Headless.Session.start machine
  let (session, logger) ← playFramesNow arguments cyclesPerFrame frames start logger
  let logger ← atPresent logger
  let _ ← printRecords (logger.runEnd session.results)
  (← IO.getStdout).putStr (screenOutput arguments session.machine)
  return (exitCode session).toUInt32

end Chip8.Cli

open Chip8.Cli in
def main (words : List String) : IO UInt32 := do
  match Arguments.parse words with
  | .ok arguments => playNow arguments
  | .error .help =>
    IO.print usage
    return 0
  | .error exit =>
    IO.eprintln s!"error: {exit.message}"
    return exit.code.toUInt32
