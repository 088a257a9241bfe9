import Chip8.Layout

/-! The sixteen keys, each held down or not. Numbers outside 0 to 15 name no key. -/

namespace Chip8

abbrev Keypad := Vector Bool 16

namespace Keypad

def released : Keypad := Vector.replicate 16 false

def key? (number : Int) : Option (Fin 16) :=
  if named : 0 ≤ number ∧ number < 16 then some ⟨number.toNat, by omega⟩ else none

def put (keypad : Keypad) (number : Int) (held : Bool) : Keypad :=
  match key? number with
  | some key => keypad.set key held
  | none => keypad

def press (keypad : Keypad) (number : Int) : Keypad := keypad.put number true

def release (keypad : Keypad) (number : Int) : Keypad := keypad.put number false

/-- Whether the key is held down that the last hexadecimal digit of a number names. -/
def isHeld (keypad : Keypad) (number : Nat) : Bool :=
  keypad.get ⟨number % 16, Nat.mod_lt _ (by decide)⟩

def held (keypad : Keypad) : List (Fin 16) := (List.finRange 16).filter (keypad[·])

def lowest? (keypad : Keypad) : Option (Fin 16) := (List.finRange 16).find? (keypad[·])

def ofHeld (numbers : List Int) : Keypad := numbers.foldl press released

theorem put_of_key? {keypad : Keypad} {number : Int} {key : Fin 16} (named : key? number = some key)
    (held : Bool) : keypad.put number held = keypad.set key held := by
  simp [put, named]

theorem put_of_key?_eq_none {keypad : Keypad} {number : Int} (unnamed : key? number = none)
    (held : Bool) : keypad.put number held = keypad := by
  simp [put, unnamed]

theorem lowest?_eq_none_iff {keypad : Keypad} :
    keypad.lowest? = none ↔ ∀ key : Fin 16, keypad[key] = false := by
  simp [lowest?, List.find?_eq_none]

theorem mem_held {keypad : Keypad} {key : Fin 16} : key ∈ keypad.held ↔ keypad[key] = true := by
  simp [held]

end Keypad

end Chip8
