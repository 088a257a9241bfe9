import Chip8.Machine.Host
import Chip8.Proofs.Machine.Draw

/-!
Lists of drawings. A sprite that stands behind the screen is the same before and after every drawing,
so each drawing of a list flips the pixels that it would flip alone, and a pixel ends up flipped when
an odd number of them cover it (`lit_foldl_sketch`). That number knows no order, and a drawing that
occurs twice more does not change its parity.
-/

namespace Chip8

open Machine Screen

/-- A sprite to be drawn from the memory at an index. Its rows stand behind the screen. -/
structure Drawing where
  index : Int
  x : Nat
  y : Nat
  height : Int
  behind : ∀ row : Nat, row < min height 15 → 0x100 ≤ (index + row) % 0x1000

def Machine.sketch (machine : Machine) (drawing : Drawing) : Machine :=
  (machine.setIndex drawing.index).drawSprite drawing.x drawing.y drawing.height

namespace Drawing

def covers (drawing : Drawing) (memory : Memory) (px : Fin 64) (py : Fin 32) : Bool :=
  spriteCovers memory (UInt16.ofInt drawing.index) drawing.x drawing.y drawing.height px py

def flips (drawings : List Drawing) (memory : Memory) (px : Fin 64) (py : Fin 32) : Bool :=
  drawings.countP (·.covers memory px py) % 2 = 1

variable {drawing : Drawing} {drawings : List Drawing} {memory : Memory} {px : Fin 64} {py : Fin 32}

theorem behind_wrapped {row : Nat} (drawn : (row : Int) < min drawing.height 15) :
    screenBytes ≤ ((UInt16.ofInt drawing.index).toNat + row) % 4096 := by
  have source := drawing.behind row drawn
  have index : (UInt16.ofInt drawing.index).toNat = (drawing.index % 0x10000).toNat := by
    rw [UInt16.ofInt, UInt16.toNat_ofNat']
    omega
  rw [index, screenBytes]
  omega

theorem covers_of_behind {other : Memory} (drawing : Drawing)
    (behind : ∀ (i : Nat) (small : i < 4096), screenBytes ≤ i → other[i] = memory[i]) :
    drawing.covers other px py = drawing.covers memory px py := by
  rw [covers, covers, spriteCovers, spriteCovers]
  by_cases drawn : drawing.y ≤ py.val ∧ (py.val : Int) < drawing.y + min (max drawing.height 0) 15
  · have row : ((py.val - drawing.y : Nat) : Int) < min drawing.height 15 := by omega
    have same : other.wrapped ((UInt16.ofInt drawing.index).toNat + (py.val - drawing.y)) =
        memory.wrapped ((UInt16.ofInt drawing.index).toNat + (py.val - drawing.y)) :=
      behind _ (Nat.mod_lt _ (by decide)) (behind_wrapped row)
    rw [same]
  · rw [decide_eq_false drawn, Bool.false_and, Bool.false_and]

theorem covers_of_offScreen (off : 64 ≤ drawing.x ∨ 32 ≤ drawing.y) :
    drawing.covers memory px py = false := by
  rw [covers, spriteCovers, rowCovers]
  rcases off with right | below
  · have outside : ¬ (drawing.x ≤ px.val ∧ px.val < drawing.x + 8) := by omega
    rw [decide_eq_false outside, Bool.false_and, Bool.and_false]
  · have outside : ¬ (drawing.y ≤ py.val ∧
        (py.val : Int) < drawing.y + min (max drawing.height 0) 15) := by omega
    rw [decide_eq_false outside, Bool.false_and]

theorem flips_cons : flips (drawing :: drawings) memory px py =
    (drawing.covers memory px py ^^ flips drawings memory px py) := by
  rw [flips, flips, List.countP_cons]
  cases drawing.covers memory px py with
  | false => simp
  | true =>
    rw [if_pos rfl, Bool.true_xor, ← decide_not, decide_eq_decide]
    omega

theorem flips_of_perm {other : List Drawing} (perm : drawings.Perm other) :
    flips other memory px py = flips drawings memory px py := by
  rw [flips, flips, perm.countP_eq]

theorem flips_inserted (early middle late : List Drawing) (drawing : Drawing) :
    flips (early ++ drawing :: middle ++ drawing :: late) memory px py =
      flips (early ++ middle ++ late) memory px py := by
  simp only [flips, List.countP_append, List.countP_cons, decide_eq_decide]
  omega

end Drawing

namespace Machine

variable {machine : Machine} {px : Fin 64} {py : Fin 32}

theorem sketch_behind (machine : Machine) (drawing : Drawing) {i : Nat} (small : i < 4096)
    (behind : screenBytes ≤ i) : (machine.sketch drawing).memory[i] = machine.memory[i] :=
  drawSprite_behind (machine.setIndex drawing.index) drawing.x drawing.y drawing.height small behind

theorem lit_sketch (machine : Machine) (drawing : Drawing) :
    lit (machine.sketch drawing).memory px py =
      (lit machine.memory px py ^^ drawing.covers machine.memory px py) := by
  by_cases seen : drawing.x < 64 ∧ drawing.y < 32
  · exact (draws_drawSprite (machine.setIndex drawing.index) ⟨drawing.x, seen.1⟩
      ⟨drawing.y, seen.2⟩ drawing.height).pixels px py
  · have off : 64 ≤ drawing.x ∨ 32 ≤ drawing.y := by omega
    rw [sketch, drawSprite_of_offScreen off, Drawing.covers_of_offScreen off, Bool.xor_false]
    rfl

theorem foldl_sketch_behind (machine : Machine) (drawings : List Drawing) {i : Nat}
    (small : i < 4096) (behind : screenBytes ≤ i) :
    (drawings.foldl sketch machine).memory[i] = machine.memory[i] := by
  induction drawings generalizing machine with
  | nil => rfl
  | cons drawing rest ih =>
    rw [List.foldl_cons, ih (machine.sketch drawing), sketch_behind machine drawing small behind]

/-- A list of drawings flips the pixels that an odd number of them cover. -/
theorem lit_foldl_sketch (machine : Machine) (drawings : List Drawing) :
    lit (drawings.foldl sketch machine).memory px py =
      (lit machine.memory px py ^^ Drawing.flips drawings machine.memory px py) := by
  induction drawings generalizing machine with
  | nil => exact (Bool.xor_false _).symm
  | cons drawing rest ih =>
    -- The first drawing leaves the sprites of the others alone, so they flip what they would have.
    have same : Drawing.flips rest (machine.sketch drawing).memory px py =
        Drawing.flips rest machine.memory px py := by
      simp only [Drawing.flips,
        Drawing.covers_of_behind _ fun i small => machine.sketch_behind drawing small]
    rw [List.foldl_cons, ih (machine.sketch drawing), lit_sketch, same, Drawing.flips_cons,
      Bool.xor_assoc]

theorem foldl_sketch_memory_of_flips {drawings other : List Drawing}
    (same : ∀ px py,
      Drawing.flips other machine.memory px py = Drawing.flips drawings machine.memory px py) :
    (other.foldl sketch machine).memory = (drawings.foldl sketch machine).memory := by
  apply memory_ext
  · intro px py
    rw [lit_foldl_sketch, lit_foldl_sketch, same]
  · intro i small behind
    rw [foldl_sketch_behind machine other small behind,
      foldl_sketch_behind machine drawings small behind]

/-- A drawing that is made again finds lit what it lit before, and dark what it turned off. -/
theorem sketch_sketch_flag (machine : Machine) (drawing : Drawing) (column : drawing.x < 64)
    (row : drawing.y < 32) :
    ((machine.sketch drawing).sketch drawing).registers.get flagRegister =
      if ∃ px py, drawing.covers machine.memory px py = true ∧ lit machine.memory px py = false
      then 1 else 0 := by
  have again := draws_drawSprite ((machine.sketch drawing).setIndex drawing.index)
    ⟨drawing.x, column⟩ ⟨drawing.y, row⟩ drawing.height
  have turned (px : Fin 64) (py : Fin 32) :
      (lit (machine.sketch drawing).memory px py = true ∧
        drawing.covers (machine.sketch drawing).memory px py = true) ↔
      drawing.covers machine.memory px py = true ∧ lit machine.memory px py = false := by
    rw [lit_sketch,
      drawing.covers_of_behind fun i small => machine.sketch_behind drawing small]
    cases lit machine.memory px py <;> cases drawing.covers machine.memory px py <;> decide
  have flagged := congrArg (·.get flagRegister) again.flagged
  refine flagged.trans ?_
  refine (Vector.getElem_set_self flagRegister.isLt).trans ?_
  have found := propext (exists_congr fun px => exists_congr (turned px))
  exact ite_congr found (fun _ => rfl) fun _ => rfl

theorem drawAt_setIndex (machine : Machine) (drawing : Drawing) (x : drawing.x < 0x80000000)
    (y : drawing.y < 0x80000000) (height : Word.isSigned32 drawing.height = true) :
    (machine.setIndex drawing.index).drawAt drawing.x drawing.y drawing.height =
      .ok (machine.sketch drawing) := by
  have column : Word.isSigned32 drawing.x = true := by
    simp only [Word.isSigned32, decide_eq_true_eq]
    omega
  have row : Word.isSigned32 drawing.y = true := by
    simp only [Word.isSigned32, decide_eq_true_eq]
    omega
  simp only [drawAt, requireInteger, column, row, height, if_true]
  rfl

/-- Drawing knows no order and undoes itself. Drawings from behind the screen leave the same memory in
any order, and one that is made at two further places changes nothing. One that is made twice in a row
tells in the flag register whether it covers a pixel that was dark before. The blitter makes each of
them whose numbers are machine integers. -/
theorem drawings_commute_and_cancel (machine : Machine) (drawings : List Drawing) :
    (∀ other, drawings.Perm other →
      (other.foldl sketch machine).memory = (drawings.foldl sketch machine).memory) ∧
    (∀ early middle late drawing, drawings = early ++ middle ++ late →
      ((early ++ drawing :: middle ++ drawing :: late).foldl sketch machine).memory =
        (drawings.foldl sketch machine).memory) ∧
    (∀ drawing : Drawing, drawing.x < 64 → drawing.y < 32 →
      ((machine.sketch drawing).sketch drawing).registers.get flagRegister =
        if ∃ px py, drawing.covers machine.memory px py = true ∧ lit machine.memory px py = false
        then 1 else 0) ∧
    (∀ drawing : Drawing, drawing.x < 0x80000000 → drawing.y < 0x80000000 →
      Word.isSigned32 drawing.height = true →
      (machine.setIndex drawing.index).drawAt drawing.x drawing.y drawing.height =
        .ok (machine.sketch drawing)) := by
  refine ⟨?_, ?_, machine.sketch_sketch_flag, machine.drawAt_setIndex⟩
  · intro other perm
    exact foldl_sketch_memory_of_flips fun _ _ => Drawing.flips_of_perm perm
  · rintro early middle late drawing rfl
    exact foldl_sketch_memory_of_flips fun _ _ => Drawing.flips_inserted early middle late drawing

def glyphAt (digit : Fin 16) (x y : Nat) : Drawing where
  index := glyphAddress digit
  x
  y
  height := 5
  behind row drawn := by
    rw [glyphAddress_eq, Int.emod_eq_of_lt] <;> omega

/-- Two glyphs that overlap, and a third one drawn over them before and after the second. -/
theorem drawings_commute_and_cancel_glyphs :
    let machine := create ⟨0, 0⟩ {}
    let one := glyphAt 5 0 0
    let two := glyphAt 10 2 1
    let three := glyphAt 3 1 2
    [one, two].Perm [two, one] ∧
    ([two, one].foldl sketch machine).memory = ([one, two].foldl sketch machine).memory ∧
    ([one, three, two, three].foldl sketch machine).memory =
      ([one, two].foldl sketch machine).memory ∧
    (one.x < 64 ∧ one.y < 32) ∧ (three.x < 64 ∧ three.y < 32) ∧
    (((machine.sketch one).sketch one).registers.get flagRegister =
      if ∃ px py, one.covers machine.memory px py = true ∧ lit machine.memory px py = false
      then 1 else 0) ∧
    (machine.setIndex one.index).drawAt one.x one.y one.height = .ok (machine.sketch one) := by
  intro machine one two three
  have swapped : [one, two].Perm [two, one] := List.Perm.swap two one []
  obtain ⟨orders, twice, flagged, drawn⟩ := drawings_commute_and_cancel machine [one, two]
  exact ⟨swapped, orders _ swapped, twice [one] [two] [] three rfl,
    ⟨by decide, by decide⟩, ⟨by decide, by decide⟩, flagged one (by decide) (by decide),
    drawn one (by decide) (by decide) (by decide)⟩

end Machine

end Chip8
