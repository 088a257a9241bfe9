import Chip8.Proofs.InstructionSet
import Chip8.Proofs.Machine.Report
import Chip8.Proofs.Screen

/-!
Drawing, pixel by pixel. The blitter works on bytes that hold eight pixels each; `Draws` says what a
sprite does to the pixels, and the main result is that the blitter does it from every origin on the
screen, and nothing from any other.
-/

namespace Chip8.Machine

open Screen Word

/-- What a sprite does to a machine. It flips the pixels that it covers and tells in the flag
register whether one of them was lit. Whether a pixel is covered is told from the old memory, also
where the sprite overlaps the screen. -/
structure Draws (before : Machine) (x y : Nat) (height : Int) (after : Machine) : Prop where
  pixels : ∀ px py, lit after.memory px py =
    (lit before.memory px py ^^ spriteCovers before.memory before.index x y height px py)
  flagged : after.registers = before.registers.set flagRegister
    (if ∃ px py, lit before.memory px py = true ∧
        spriteCovers before.memory before.index x y height px py = true then 1 else 0)
  behind : ∀ (i : Nat) (small : i < 4096), screenBytes ≤ i → after.memory[i] = before.memory[i]
  others : after = { before with memory := after.memory, registers := after.registers }

variable {machine : Machine} {word : UInt16}

theorem drawSprite_of_offScreen {x y : Nat} (off : 64 ≤ x ∨ 32 ≤ y) (height : Int) :
    machine.drawSprite x y height = machine := by
  have unseen : ¬ onScreen x y = true := by
    rw [onScreen_iff]
    omega
  simp [drawSprite, unseen]

theorem drawSprite_of_onScreen (machine : Machine) (x : Fin 64) (y : Fin 32) (height : Int) :
    machine.drawSprite x.val y.val height =
      let strokes := spriteStrokes machine.memory machine.index x.val y.val height
      { machine with memory := strokes.foldl Stroke.apply machine.memory }.flag
        (strokes.any (Stroke.collides machine.memory)) := by
  have seen : onScreen x.val y.val = true := onScreen_iff.mpr ⟨x.isLt, y.isLt⟩
  simp [drawSprite, seen, draw]

theorem draws_drawSprite (machine : Machine) (x : Fin 64) (y : Fin 32) (height : Int) :
    machine.Draws x y height (machine.drawSprite x.val y.val height) := by
  have inside := spriteStrokes_inside machine.memory machine.index x y height
  have apart := spriteStrokes_apart machine.memory machine.index x y height
  have collision := any_collides_spriteStrokes machine.memory machine.index x y height
  rw [drawSprite_of_onScreen]
  constructor
  · intro px py
    rw [← any_covers_spriteStrokes, ← Stroke.flips_eq_any apart]
    exact Stroke.lit_foldl_apply inside machine.memory
  · simp only [flag, setRegister, ← collision]
    cases (spriteStrokes machine.memory machine.index x.val y.val height).any
        (Stroke.collides machine.memory) <;> rfl
  · intro i small behind
    exact Stroke.getElem_foldl_apply inside machine.memory i small behind
  · rfl

theorem drawSprite_behind (machine : Machine) (x y : Nat) (height : Int) {i : Nat} (small : i < 4096)
    (behind : screenBytes ≤ i) : (machine.drawSprite x y height).memory[i] = machine.memory[i] := by
  by_cases seen : x < 64 ∧ y < 32
  · exact (draws_drawSprite machine ⟨x, seen.1⟩ ⟨y, seen.2⟩ height).behind i small behind
  · rw [drawSprite_of_offScreen (by omega)]

theorem execute_of_draw (form : Matches "DXYN" word) :
    machine.execute word =
      (machine.drawSprite (machine.registers.get (x word)).toNat
        (machine.registers.get (y word)).toNat (n word).val).reported .ok machine.fault := by
  rw [execute_eq, Instruction.decode_of_encodes (.draw form)]
  rfl

/-- From an origin on the screen the blitter flips the pixels of the sprite, and from one off the
screen it does nothing. The word DXYN draws at VX and VY as they stood before the flag was written. -/
theorem drawSprite_pixelwise (machine : Machine) :
    (∀ (x : Fin 64) (y : Fin 32) (height : Int),
      machine.Draws x y height (machine.drawSprite x.val y.val height)) ∧
    (∀ (x y : Nat) (height : Int), 64 ≤ x ∨ 32 ≤ y → machine.drawSprite x y height = machine) ∧
    (∀ word, Matches "DXYN" word →
      machine.execute word =
        (machine.drawSprite (machine.registers.get (x word)).toNat
          (machine.registers.get (y word)).toNat (n word).val).reported .ok machine.fault) := by
  refine ⟨machine.draws_drawSprite, ?_, ?_⟩
  · intro x y height off
    exact drawSprite_of_offScreen off height
  · intro word form
    exact execute_of_draw form

end Chip8.Machine
