import Chip8.Keypad

/-! Which keys are down after an event, and which of them is the lowest. -/

namespace Chip8.Keypad

variable {keypad : Keypad} {key : Fin 16}

theorem ext_get {other : Keypad} (same : ∀ key, keypad.get key = other.get key) :
    keypad = other := by
  apply Vector.ext
  intro i small
  exact same ⟨i, small⟩

theorem key?_eq_some_iff {number : Int} : key? number = some key ↔ number = key.val := by
  unfold key?
  split
  · rename_i named
    rw [Option.some_inj, Fin.ext_iff]
    dsimp only
    omega
  · rename_i unnamed
    have bound := key.isLt
    simp only [reduceCtorEq, false_iff]
    omega

theorem get_put (keypad : Keypad) (number : Int) (held : Bool) (key : Fin 16) :
    (keypad.put number held).get key = if number = key.val then held else keypad.get key := by
  cases named : key? number with
  | none =>
    have other : number ≠ key.val := by
      intro same
      rw [key?_eq_some_iff.mpr same] at named
      cases named
    rw [put_of_key?_eq_none named, if_neg other]
  | some place =>
    rw [put_of_key? named, key?_eq_some_iff.mp named]
    change (Vector.set keypad place.val held)[key.val] = _
    rw [Vector.getElem_set]
    simp only [Int.natCast_inj]
    rfl

theorem get_released (key : Fin 16) : released.get key = false := by
  change (Vector.replicate 16 false)[key.val] = false
  exact Vector.getElem_replicate key.isLt

theorem lowest?_eq_some_iff :
    keypad.lowest? = some key ↔
      keypad.get key = true ∧ ∀ lower < key, keypad.get lower = false := by
  rw [lowest?, List.find?_eq_some_iff_getElem]
  apply and_congr_right
  intro _
  constructor
  · rintro ⟨i, small, same, before⟩ lower below
    rw [List.getElem_finRange] at same
    have earlier := before lower.val (by rw [← same] at below; exact below)
    rw [List.getElem_finRange] at earlier
    exact (Bool.not_eq_true' _).mp earlier
  · intro before
    refine ⟨key.val, by simp, by simp, ?_⟩
    intro j below
    rw [List.getElem_finRange]
    exact (Bool.not_eq_true' _).mpr (before ⟨j, by omega⟩ below)

theorem exists_lowest? (held : keypad.get key = true) :
    ∃ lowest, keypad.lowest? = some lowest := by
  cases found : keypad.lowest? with
  | some lowest => exact ⟨lowest, rfl⟩
  | none => exact absurd (held.symm.trans (lowest?_eq_none_iff.mp found key)) (by decide)

end Chip8.Keypad
