import Chip8.Log.Value
import Chip8.Machine.Step

/-! The settings of a headless run, how a log lists them, and the machine that they start from. -/

namespace Chip8.Headless

structure Config where
  imagePath : String := ""
  frames : Int := 600
  /-- Instructions per second. -/
  frequency : Int := 700
  frameRate : Int := 60
  seed : Int := 0
  variant : Variant := {}
  /-- The key held down for one frame whenever the program waits for one. -/
  haltKey : Option Int := none
  stopOnUnknown : Bool := false
  logLevel : String := "INFO"
  progress : Bool := true
  deriving DecidableEq, Repr

namespace Config

/-- Instructions between two ticks of the timers, rounded down, but at least one. -/
def cyclesPerFrame (config : Config) : Except HostError Int :=
  if config.frameRate = 0 then .error .frameRateZero
  else .ok (max 1 (Int.fdiv config.frequency config.frameRate))

def settings (config : Config) (cyclesPerFrame : Int) : List (String × Log.Value) := [
  ("rom_path", .text config.imagePath),
  ("frames", .whole config.frames),
  ("instruction_frequency", .whole config.frequency),
  ("fps", .whole config.frameRate),
  ("seed", .whole config.seed),
  ("halt_key", (config.haltKey.map Log.Value.whole).getD .absent),
  ("stop_on_noop", .truth config.stopOnUnknown),
  ("log_level", .text config.logLevel),
  ("progress", .truth config.progress),
  ("shift_vx", .truth config.variant.shiftInPlace),
  ("jump_vx", .truth config.variant.jumpByRegister),
  ("increment_index", .truth config.variant.advanceIndex),
  ("cycles_per_frame", .whole cyclesPerFrame)]

def machine (config : Config) (image : Except ReadFailure (List UInt8)) :
    Except HostError Machine := do
  let machine ← Machine.ofSeed config.seed config.variant
  match image with
  | .ok bytes => machine.load bytes
  | .error failure => .error (.imageUnreadable config.imagePath failure)

/-- The number of frames to run at most, which is less than 2^63. A negative one means none. -/
def frameCount (config : Config) : Except HostError Nat :=
  if config.frames < 0x8000000000000000 then .ok config.frames.toNat
  else .error (.outOfRange config.frames)

end Config

def requireListable (settings : List (String × Log.Value)) :
    Except HostError (List (String × Log.Value)) :=
  if settings.all fun setting => setting.2.isListable then .ok settings else .error .numberTooLong

end Chip8.Headless
