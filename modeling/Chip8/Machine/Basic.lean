import Chip8.Condition
import Chip8.Keypad
import Chip8.Memory
import Chip8.RandomKey
import Chip8.Stack

/-!
The state of a machine and what a host does to it between instructions: switching it on, loading an
image, holding keys down, and ticking the timers.
-/

namespace Chip8

structure Variant where
  /-- The shifts take VX itself as their source, not VY. -/
  shiftInPlace : Bool := false
  /-- BXNN adds VX to its target, not V0. -/
  jumpByRegister : Bool := false
  /-- FX55 and FX65 leave I past the last register. -/
  advanceIndex : Bool := false
  deriving DecidableEq, Repr

structure Machine where
  rng : RandomKey
  memory : Memory
  registers : Vector UInt8 16
  index : UInt16
  pc : UInt16
  stack : Stack
  delayTimer : UInt8
  soundTimer : UInt8
  keypad : Keypad
  waiting : Bool
  waitRegister : UInt8
  status : Status
  /-- The word, or the address, that the last status other than `ok` was recorded with. -/
  fault : UInt16
  variant : Variant

namespace Machine

def powerOn (rng : RandomKey) (keypad : Keypad) (variant : Variant) : Machine where
  rng
  memory := Memory.initial
  registers := Vector.replicate 16 0
  index := 0
  pc := UInt16.ofNat programStart
  stack := Stack.empty
  delayTimer := 0
  soundTimer := 0
  keypad
  waiting := false
  waitRegister := 0
  status := .ok
  fault := 0
  variant

def create (rng : RandomKey) (variant : Variant) : Machine := powerOn rng Keypad.released variant

def ofSeed (seed : Int) (variant : Variant) : Except HostError Machine :=
  match RandomKey.ofSeed? seed with
  | some rng => .ok (create rng variant)
  | none => .error (.outOfRange seed)

/-- The random key, the keypad and the variant outlive a reset. -/
def reset (machine : Machine) : Machine := powerOn machine.rng machine.keypad machine.variant

def copyImage (machine : Machine) (image : List UInt8) : Machine :=
  { machine with memory := Table.store machine.memory programStart image }

def load (machine : Machine) (image : List UInt8) : Except HostError Machine :=
  if image.length ≤ programCapacity then .ok (machine.reset.copyImage image)
  else .error (.imageTooLarge image.length programCapacity)

def pressKey (machine : Machine) (key : Int) : Machine :=
  { machine with keypad := machine.keypad.press key }

def releaseKey (machine : Machine) (key : Int) : Machine :=
  { machine with keypad := machine.keypad.release key }

def tickTimers (machine : Machine) : Machine :=
  { machine with
    delayTimer := if machine.delayTimer = 0 then 0 else machine.delayTimer - 1
    soundTimer := if machine.soundTimer = 0 then 0 else machine.soundTimer - 1 }

def condition (machine : Machine) : Except HostError (Option Condition) :=
  Condition.ofStatus machine.status.code.toNat machine.fault.toNat

@[simp] theorem powerOn_rng (rng : RandomKey) (keypad : Keypad) (variant : Variant) :
    (powerOn rng keypad variant).rng = rng := rfl

@[simp] theorem powerOn_keypad (rng : RandomKey) (keypad : Keypad) (variant : Variant) :
    (powerOn rng keypad variant).keypad = keypad := rfl

@[simp] theorem powerOn_variant (rng : RandomKey) (keypad : Keypad) (variant : Variant) :
    (powerOn rng keypad variant).variant = variant := rfl

@[simp] theorem reset_reset (machine : Machine) : machine.reset.reset = machine.reset := by
  rw [reset, reset, powerOn_rng, powerOn_keypad, powerOn_variant]

theorem load_of_le {machine : Machine} {image : List UInt8}
    (fits : image.length ≤ programCapacity) :
    machine.load image = .ok (machine.reset.copyImage image) := by
  rw [load, if_pos fits]

theorem load_of_lt {machine : Machine} {image : List UInt8}
    (large : programCapacity < image.length) :
    machine.load image = .error (.imageTooLarge image.length programCapacity) := by
  rw [load, if_neg (by omega)]

end Machine

end Chip8
