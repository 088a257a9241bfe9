import Chip8.Headless.Config
import Chip8.Log.RunLog

/-!
A headless run, frame by frame. A frame is a batch of cycles and one tick of the timers. A frame
that ends in a key wait puts the configured key down for the next frame; a fatal condition ends the
run, and so does an unknown instruction if the settings say so. `run` plays a whole run and logs it.
-/

namespace Chip8.Headless

structure Session where
  machine : Machine
  frames : Nat
  cycles : Nat
  haltedFrames : Nat
  /-- The key that is down for one frame. -/
  heldKey? : Option Int
  condition : Option Condition
  stopped : Bool

namespace Session

def start (machine : Machine) : Session := ⟨machine, 0, 0, 0, none, none, false⟩

def isHalt : Option Condition → Bool
  | some (.inputHalt _) => true
  | _ => false

def stops (config : Config) : Option Condition → Bool
  | some condition => condition.isFatal || (config.stopOnUnknown && Log.Logger.isUnknown condition)
  | none => false

def changeKey (machine : Machine) (held? next? : Option Int) : Machine :=
  let freed := match held? with
    | some key => machine.releaseKey key
    | none => machine
  match next? with
  | some key => freed.pressKey key
  | none => freed

def frame (config : Config) (cyclesPerFrame : Int) (session : Session) :
    Except HostError Session := do
  let batch ← session.machine.executeCycles cyclesPerFrame
  let halted := isHalt batch.condition
  let nextKey? := if halted then config.haltKey else none
  return {
    machine := changeKey batch.machine.tickTimers session.heldKey? nextKey?
    frames := session.frames + 1
    cycles := session.cycles + batch.executed
    haltedFrames := session.haltedFrames + halted.toNat
    heldKey? := nextKey?
    condition := batch.condition
    stopped := stops config batch.condition }

def logFrame (session : Session) (logger : Log.Logger) : Log.Logger :=
  logger.condition (session.frames - 1) session.machine.pc.toNat session.condition

def advance (config : Config) (cyclesPerFrame : Int) (session : Session) (logger : Log.Logger) :
    Except HostError (Session × Log.Logger) := do
  let session ← session.frame config cyclesPerFrame
  return (session, session.logFrame logger)

def play (config : Config) (cyclesPerFrame : Int) :
    Nat → Session → Log.Logger → Except HostError (Session × Log.Logger)
  | 0, session, logger => .ok (session, logger)
  | frames + 1, session, logger =>
    if session.stopped then .ok (session, logger)
    else do
      let (session, logger) ← session.advance config cyclesPerFrame logger
      play config cyclesPerFrame frames session logger

def results (session : Session) : List (String × Log.Value) := [
  ("frames", .whole session.frames),
  ("cycles", .whole session.cycles),
  ("halted_frames", .whole session.haltedFrames),
  ("pc", .text ("0x" ++ Text.hex 3 session.machine.pc.toNat)),
  ("I", .text ("0x" ++ Text.hex 3 session.machine.index.toNat)),
  ("V", .text (" ".intercalate
    (session.machine.registers.toList.map fun value => Text.hex 2 value.toNat)))]

end Session

def run (config : Config) (image : Except ReadFailure (List UInt8)) (logger : Log.Logger) :
    Except HostError (Session × Log.Logger) := do
  let cyclesPerFrame ← config.cyclesPerFrame
  let settings ← requireListable (config.settings cyclesPerFrame)
  let logger := logger.runStart settings
  let machine ← config.machine image
  let frames ← config.frameCount
  let (session, logger) ←
    Session.play config cyclesPerFrame frames (Session.start machine) logger
  return (session, logger.runEnd session.results)

end Chip8.Headless
