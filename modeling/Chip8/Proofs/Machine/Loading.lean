import Chip8.Proofs.Machine.Reserved

/-!
Loading an image. Whatever a machine has done before, afterwards every byte of its memory is told by
the font and the image, and every field by the random key, the keypad and the variant (`Fresh`). So
nothing of its past is left: machines that agree on these three go on as one.
-/

namespace Chip8.Machine

variable {machine other : Machine} {image : List UInt8}

/-- A machine that has just been loaded. It takes the random key, the keypad and the variant from the
machine before; all else is as at power-on, with the image in the program region. -/
structure Fresh (before : Machine) (image : List UInt8) (after : Machine) : Prop where
  memory : ∀ (i : Nat) (small : i < 4096), after.memory[i] =
    if glyphs : 0x100 ≤ i ∧ i < 0x100 + font.length then font.get ⟨i - 0x100, by omega⟩
    else if program : 0x200 ≤ i ∧ i < 0x200 + image.length then image.get ⟨i - 0x200, by omega⟩
    else 0
  others : after = {
    rng := before.rng
    memory := after.memory
    registers := Vector.replicate 16 0
    index := 0
    pc := 0x200
    stack := { slots := Vector.replicate 16 0, pointer := 0 }
    delayTimer := 0
    soundTimer := 0
    keypad := before.keypad
    waiting := false
    waitRegister := 0
    status := .ok
    fault := 0
    variant := before.variant }

@[simp] theorem copyImage_nil (machine : Machine) : machine.copyImage [] = machine := rfl

theorem getElem_copyImage_reset (machine : Machine) (image : List UInt8) (i : Nat)
    (small : i < 4096) :
    (machine.reset.copyImage image).memory[i] =
      if program : 0x200 ≤ i ∧ i < 0x200 + image.length then image.get ⟨i - 0x200, by omega⟩
      else Memory.initial[i] :=
  Table.getElem_store Memory.initial 0x200 image i small

theorem getElem_initial (i : Nat) (small : i < 4096) :
    Memory.initial[i] =
      if glyphs : 0x100 ≤ i ∧ i < 0x100 + font.length then font.get ⟨i - 0x100, by omega⟩
      else 0 := by
  rw [Memory.initial, Table.getElem_store, Vector.getElem_replicate]
  rfl

theorem fresh_copyImage (machine : Machine) (image : List UInt8) :
    machine.Fresh image (machine.reset.copyImage image) := by
  constructor
  · intro i small
    have length : font.length = 0x50 := by rw [font_length, glyphSize]
    rw [getElem_copyImage_reset, getElem_initial]
    by_cases glyphs : 0x100 ≤ i ∧ i < 0x100 + font.length
    · have before : ¬ (0x200 ≤ i ∧ i < 0x200 + image.length) := by omega
      simp only [dif_neg before, dif_pos glyphs]
    · simp only [dif_neg glyphs]
  · have start : UInt16.ofNat programStart = 0x200 := rfl
    simp only [copyImage, reset, powerOn, Stack.empty, start]

/-- Machines loaded with one image differ at most where the machines before them did. -/
theorem Fresh.unique {loaded loaded' : Machine} (fresh : machine.Fresh image loaded)
    (fresh' : other.Fresh image loaded') (rng : other.rng = machine.rng)
    (keypad : other.keypad = machine.keypad) (variant : other.variant = machine.variant) :
    loaded' = loaded := by
  have memory : loaded'.memory = loaded.memory := by
    apply Vector.ext
    intro i small
    rw [fresh.memory i small, fresh'.memory i small]
  rw [fresh'.others, fresh.others, memory, rng, keypad, variant]

theorem Fresh.read (fresh : machine.Fresh image other) (fits : image.length ≤ 3584) :
    other.readMemory 0x200 image.length = image := by
  have read : other.memory.read (0x200 : Nat) image.length = image := by
    apply Memory.read_eq rfl
    · intro i small
      have behind : ¬ (0x100 ≤ 0x200 + i ∧ 0x200 + i < 0x100 + font.length) := by
        rw [font_length, glyphSize]
        omega
      have inside : 0x200 ≤ 0x200 + i ∧ 0x200 + i < 0x200 + image.length := by omega
      refine (fresh.memory (0x200 + i) (by omega)).trans ?_
      rw [dif_neg behind, dif_pos inside]
      simp only [List.get_eq_getElem, Nat.add_sub_cancel_left]
    · omega
  exact read

/-- Loading leaves nothing of the past. An image that fits makes a fresh machine out of any other, in
which it reads back, and machines that agree on random key, keypad and variant go on as one after it.
A reset is the load of an empty image. An image that does not fit is refused with its size and the
capacity, and the machine stays as it was. -/
theorem load_erases_history (machine : Machine) (image : List UInt8) :
    (image.length ≤ 3584 → ∃ loaded, machine.load image = .ok loaded ∧
      machine.Fresh image loaded ∧
      loaded.readMemory 0x200 image.length = image ∧
      ∀ other : Machine, other.rng = machine.rng → other.keypad = machine.keypad →
        other.variant = machine.variant →
        other.load image = .ok loaded ∧
        ∀ history, other.after (.load image :: history) = machine.after (.load image :: history)) ∧
    (3584 < image.length → machine.load image = .error (.imageTooLarge image.length 3584) ∧
      machine.serve (.load image) = machine) ∧
    machine.reset.reset = machine.reset ∧
    machine.load [] = .ok machine.reset := by
  refine ⟨?_, ?_, machine.reset_reset, ?_⟩
  · intro fits
    have fresh := fresh_copyImage machine image
    refine ⟨machine.reset.copyImage image, load_of_le fits, fresh, fresh.read fits, ?_⟩
    intro other rng keypad variant
    have same : other.reset.copyImage image = machine.reset.copyImage image :=
      fresh.unique (fresh_copyImage other image) rng keypad variant
    refine ⟨(load_of_le fits).trans (congrArg Except.ok same), ?_⟩
    intro history
    rw [after_cons, after_cons, serve_load_of_le fits, serve_load_of_le fits, same]
  · intro large
    exact ⟨load_of_lt large, serve_load_of_lt large⟩
  · have fits : ([] : List UInt8).length ≤ programCapacity := Nat.zero_le _
    rw [load_of_le fits, copyImage_nil]

end Chip8.Machine
