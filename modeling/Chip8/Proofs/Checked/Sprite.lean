import Chip8.Machine.Execute
import Chip8.Proofs.Checked.Table
import Chip8.Proofs.Screen
import Mathlib.Data.List.Pairwise

/-!
The blitter with checked access. It always handles two strokes for each of fifteen rows, and those
that are not drawn fall just past the end of memory. It reads all bytes first and then writes them,
while `Screen.draw` goes stroke by stroke; the strokes of a sprite touch each byte once, so both come
to the same memory.
-/

namespace Chip8.Checked

open Screen

def spriteRows (memory : Memory) (index : UInt16) : Option (List (Nat × UInt8)) :=
  (List.range maxSpriteHeight).mapM fun row => do
    let bits ← Table.read? memory ((index.toNat + row) % memorySize : Nat)
    return (row, bits)

def isDrawn (x y height row : Nat) : Bool := onScreen x y && row < height && y + row < screenHeight

def leftStroke (x y height : Nat) (row : Nat × UInt8) : Nat × UInt8 :=
  (if isDrawn x y height row.1 then (y + row.1) * rowBytes + x / 8 else memorySize,
    row.2 >>> UInt8.ofNat (x % 8))

def rightStroke (x y height : Nat) (row : Nat × UInt8) : Nat × UInt8 :=
  (if isDrawn x y height row.1 && 0 < x % 8 && x / 8 < rowBytes - 1 then
      (y + row.1) * rowBytes + x / 8 + 1
    else memorySize,
    row.2 <<< (8 - UInt8.ofNat (x % 8)))

/-- The strokes in the order of the blitter: all left ones, then all right ones. -/
def strokesOf (x y height : Nat) (rows : List (Nat × UInt8)) : List (Nat × UInt8) :=
  rows.map (leftStroke x y height) ++ rows.map (rightStroke x y height)

def blit (memory : Memory) (strokes : List (Nat × UInt8)) : Option (Memory × Bool) := do
  let bytes ← Table.gather? memory 0 (strokes.map Prod.fst)
  let loaded := strokes.zip bytes
  let flipped ← Table.scatter? memory (loaded.map fun (stroke, byte) => (stroke.1, byte ^^^ stroke.2))
  return (flipped, loaded.any fun (stroke, byte) => byte &&& stroke.2 ≠ 0)

def drawSprite (machine : Machine) (x y height : Nat) : Option Machine := do
  let rows ← spriteRows machine.memory machine.index
  let (memory, collision) ← blit machine.memory (strokesOf x y height rows)
  let registers ← Table.write? machine.registers flagRegister.val collision.toUInt8
  return { machine with
    memory, registers := if onScreen x y then registers else machine.registers }

variable {memory : Memory} {index : UInt16}

theorem spriteRows_eq (memory : Memory) (index : UInt16) :
    spriteRows memory index = some ((List.range maxSpriteHeight).map fun row =>
      (row, memory.wrapped (index.toNat + row))) := by
  have inside (row : Nat) : (index.toNat + row) % memorySize < 4096 := Nat.mod_lt _ (by decide)
  simp only [spriteRows, Table.read?_of_lt (inside _)]
  exact List.mapM_pure

theorem blit_eq {strokes : List (Nat × UInt8)} (inside : ∀ stroke ∈ strokes, stroke.1 ≤ 4096) :
    blit memory strokes =
      some
        (strokes.foldl
          (fun flipped stroke =>
            Table.write flipped stroke.1 (Table.readOr memory stroke.1 0 ^^^ stroke.2)) memory,
          strokes.any fun stroke => Table.readOr memory stroke.1 0 &&& stroke.2 ≠ 0) := by
  -- The byte that a stroke reads stays abstract, so that no step below unfolds the memory.
  obtain ⟨byte, isByte⟩ : ∃ byte : Nat × UInt8 → UInt8,
      ∀ stroke, Table.readOr memory stroke.1 0 = byte stroke := ⟨_, fun _ => rfl⟩
  have positions : ∀ position ∈ strokes.map Prod.fst, position ≤ 4096 := by
    simpa using inside
  have bytes : Table.gather? memory 0 (strokes.map Prod.fst) = some (strokes.map byte) := by
    simp only [Table.gather?_of_le positions, List.map_map, Function.comp_def, isByte]
  have loaded : strokes.zip (strokes.map byte) = strokes.map fun stroke => (stroke, byte stroke) :=
    List.map_prod_left_eq_zip.symm
  have writes : ∀ w ∈ strokes.map fun stroke => (stroke.1, byte stroke ^^^ stroke.2), w.1 ≤ 4096 := by
    intro w member
    obtain ⟨stroke, among, rfl⟩ := List.mem_map.mp member
    exact inside stroke among
  simp only [isByte, blit, bytes, Option.bind_eq_bind, Option.bind_some, loaded, List.map_map,
    Function.comp_def, Table.scatter?_of_le writes, List.foldl_map, List.any_map]
  rfl

def strokeList (memory : Memory) (index : UInt16) (x y height : Nat) : List (Nat × UInt8) :=
  strokesOf x y height <|
    (List.range maxSpriteHeight).map fun row => (row, memory.wrapped (index.toNat + row))

theorem mem_strokeList {x y height : Nat} {stroke : Nat × UInt8} :
    stroke ∈ strokeList memory index x y height ↔
      ∃ row < maxSpriteHeight,
        leftStroke x y height (row, memory.wrapped (index.toNat + row)) = stroke ∨
        rightStroke x y height (row, memory.wrapped (index.toNat + row)) = stroke := by
  simp [strokeList, strokesOf, exists_or, and_or_left]

theorem isDrawn_iff {x y height row : Nat} :
    isDrawn x y height row = true ↔ x < 64 ∧ row < height ∧ y + row < 32 := by
  rw [isDrawn, Bool.and_eq_true, Bool.and_eq_true, onScreen_iff, decide_eq_true_eq, decide_eq_true_eq]
  simp only [screenHeight]
  omega

/-- A stroke falls on the screen or just past the end of memory. -/
theorem le_of_mem_strokeList {x y height : Nat} {stroke : Nat × UInt8}
    (member : stroke ∈ strokeList memory index x y height) : stroke.1 ≤ 4096 := by
  obtain ⟨row, -, rfl | rfl⟩ := mem_strokeList.mp member
  · unfold leftStroke
    split
    · rename_i drawn
      have bounds := isDrawn_iff.mp drawn
      simp only [rowBytes, screenWidth]
      omega
    · exact Nat.le_refl _
  · unfold rightStroke
    split
    · rename_i drawn
      rw [Bool.and_eq_true, Bool.and_eq_true] at drawn
      have bounds := isDrawn_iff.mp drawn.1.1
      simp only [rowBytes, screenWidth]
      omega
    · exact Nat.le_refl _

theorem masked_eq_iff {meant : Prop} [Decidable meant] {place address : Nat} {entry bits : UInt8}
    (inside : address < 4096) :
    (if meant then place else memorySize, entry) = (address, bits) ↔
      meant ∧ address = place ∧ bits = entry := by
  have past : ¬ memorySize = address := Nat.ne_of_gt inside
  rw [Prod.mk.injEq]
  by_cases holds : meant
  · rw [if_pos holds, eq_comm, @eq_comm _ entry]
    simp only [holds, true_and]
  · simp only [holds, if_false, past, false_and]

theorem mem_strokeList_iff (x : Fin 64) (y : Fin 32) (height : Nat) {address : Nat} {bits : UInt8}
    (inside : address < 4096) :
    (address, bits) ∈ strokeList memory index x y height ↔
      (⟨address, bits⟩ : Stroke) ∈ spriteStrokes memory index x.val y.val height := by
  rw [mem_strokeList, spriteStrokes, List.mem_flatMap]
  apply exists_congr
  intro row
  have few : row < maxSpriteHeight ↔ row < 15 := Iff.rfl
  rw [mem_visibleRows, leftStroke, rightStroke, masked_eq_iff inside, masked_eq_iff inside, few]
  simp only [Bool.and_eq_true, decide_eq_true_eq, isDrawn_iff, rowBytes, screenWidth]
  by_cases drawn : row < height ∧ y.val + row < 32
  · have strokes : (⟨address, bits⟩ : Stroke) ∈ _ ↔ _ :=
      mem_rowStrokes x ⟨y.val + row, drawn.2⟩ (memory.wrapped (index.toNat + row))
    have bound := x.isLt
    rw [← Int.natCast_add, strokes]
    grind
  · have hidden : ¬ (x.val < 64 ∧ row < height ∧ y.val + row < 32) := fun both => drawn both.2
    have hidden' : ¬ (row < 15 ∧ (row : Int) < height ∧ y.val + row < 32) := by omega
    simp only [hidden, hidden', false_and, or_self, and_false]

section OnScreen

variable (x : Fin 64) (y : Fin 32) (height : Nat)

/-- Strokes of a sprite on the same byte are the same stroke. -/
theorem bits_eq_of_mem_strokeList {stroke : Stroke} {w : Nat × UInt8} {i : Nat} (small : i < 4096)
    (member : stroke ∈ spriteStrokes memory index x.val y.val height) (here : stroke.address = i)
    (listed : w ∈ strokeList memory index x y height) (place : w.1 = i) : w.2 = stroke.bits := by
  have apart := spriteStrokes_apart memory index x y height
  have other := (mem_strokeList_iff x y height (place ▸ small)).mp listed
  have symmetric : Std.Symm fun stroke later : Stroke => stroke.address ≠ later.address :=
    ⟨fun _ _ unequal => unequal.symm⟩
  have same : (⟨w.1, w.2⟩ : Stroke) = stroke := Decidable.byContradiction fun distinct =>
    apart.forall other member distinct (by rw [here, place])
  exact congrArg Stroke.bits same

theorem foldl_strokeList_eq :
    (strokeList memory index x y height).foldl
        (fun flipped stroke =>
          Table.write flipped stroke.1 (Table.readOr memory stroke.1 0 ^^^ stroke.2)) memory =
      (spriteStrokes memory index x.val y.val height).foldl Stroke.apply memory := by
  have inside := spriteStrokes_inside memory index x y height
  have apart := spriteStrokes_apart memory index x y height
  apply Vector.ext
  intro i small
  -- At most one stroke touches a byte, so both orders write the same there.
  by_cases touched : ∃ stroke ∈ spriteStrokes memory index x.val y.val height, stroke.address = i
  · obtain ⟨stroke, member, here⟩ := touched
    have agree : ∀ w ∈ strokeList memory index x y height, w.1 = i →
        Table.readOr memory w.1 0 ^^^ w.2 = memory[i] ^^^ stroke.bits := by
      intro w listed place
      rw [bits_eq_of_mem_strokeList x y height small member here listed place, place,
        Table.readOr_of_lt memory 0 small]
    have listed : ∃ w ∈ strokeList memory index x y height, w.1 = i :=
      ⟨(i, stroke.bits), (mem_strokeList_iff x y height small).mpr (here ▸ member), rfl⟩
    rw [Table.getElem_foldl_write agree memory small, if_pos listed,
      Stroke.getElem_foldl_apply_of_mem inside apart memory i small member here]
  · have unlisted : ∀ w ∈ strokeList memory index x y height, w.1 ≠ i := by
      intro w listed place
      have member := (mem_strokeList_iff x y height (place ▸ small)).mp listed
      exact touched ⟨_, member, congrArg Nat.cast place⟩
    have agree : ∀ w ∈ strokeList memory index x y height, w.1 = i →
        Table.readOr memory w.1 0 ^^^ w.2 = 0 :=
      fun w listed place => absurd place (unlisted w listed)
    have none : ¬ ∃ w ∈ strokeList memory index x y height, w.1 = i := by
      rintro ⟨w, listed, place⟩
      exact unlisted w listed place
    rw [Table.getElem_foldl_write agree memory small, if_neg none,
      Stroke.getElem_foldl_apply_of_untouched inside memory i small]
    intro stroke member here
    exact touched ⟨stroke, member, here⟩

theorem any_strokeList_eq :
    (strokeList memory index x y height).any
        (fun stroke => Table.readOr memory stroke.1 0 &&& stroke.2 ≠ 0) =
      (spriteStrokes memory index x.val y.val height).any (Stroke.collides memory) := by
  rw [Bool.eq_iff_iff, List.any_eq_true, List.any_eq_true]
  constructor
  · rintro ⟨stroke, listed, collision⟩
    have place := le_of_mem_strokeList listed
    -- Past the end of memory a stroke reads a zero byte, which collides with nothing.
    by_cases inside : stroke.1 < 4096
    · exact ⟨_, (mem_strokeList_iff x y height inside).mp listed, collision⟩
    · rw [Table.readOr, Table.place?_eq_none_of_le (by omega)] at collision
      simp at collision
  · rintro ⟨stroke, member, collision⟩
    obtain ⟨address, low, place⟩ :=
      (spriteStrokes_inside memory index x y height stroke member).exists_nat
    refine ⟨(address, stroke.bits), ?_, ?_⟩
    · exact (mem_strokeList_iff x y height (by omega)).mpr (place ▸ member)
    · rw [← place]
      exact collision

theorem blit_of_onScreen :
    blit memory (strokeList memory index x y height) =
      some (draw memory (spriteStrokes memory index x.val y.val height)) := by
  rw [blit_eq fun stroke listed => le_of_mem_strokeList listed, foldl_strokeList_eq,
    any_strokeList_eq]
  rfl

end OnScreen

theorem blit_of_offScreen {x y : Nat} (off : onScreen x y = false) (height : Nat) :
    ∃ collision, blit memory (strokeList memory index x y height) = some (memory, collision) := by
  have masked : ∀ stroke ∈ strokeList memory index x y height, stroke.1 = 4096 := by
    intro stroke listed
    obtain ⟨row, -, rfl | rfl⟩ := mem_strokeList.mp listed
    · simp [leftStroke, isDrawn, off]
    · simp [rightStroke, isDrawn, off]
  rw [blit_eq fun stroke listed => le_of_mem_strokeList listed]
  have kept : (strokeList memory index x y height).foldl
      (fun flipped stroke =>
        Table.write flipped stroke.1 (Table.readOr memory stroke.1 0 ^^^ stroke.2)) memory =
      memory := by
    apply Vector.ext
    intro i small
    have agree : ∀ w ∈ strokeList memory index x y height, w.1 = i →
        Table.readOr memory w.1 0 ^^^ w.2 = memory[i] := by
      intro w listed place
      have past := masked w listed
      omega
    rw [Table.getElem_foldl_write agree memory small]
    exact ite_self _
  rw [kept]
  exact ⟨_, rfl⟩

theorem drawSprite_eq (machine : Machine) (x y height : Nat) :
    drawSprite machine x y height = some (machine.drawSprite x y height) := by
  have strokes : strokesOf x y height ((List.range maxSpriteHeight).map fun row =>
        (row, machine.memory.wrapped (machine.index.toNat + row))) =
      strokeList machine.memory machine.index x y height := rfl
  have flag : flagRegister.val < 16 := flagRegister.isLt
  simp only [drawSprite, spriteRows_eq, Option.bind_eq_bind, Option.bind_some, strokes,
    Table.write?_of_lt flag]
  cases seen : onScreen x y with
  | true =>
    obtain ⟨column, line⟩ := onScreen_iff.mp seen
    rw [blit_of_onScreen ⟨x, column⟩ ⟨y, line⟩]
    simp only [Machine.drawSprite, seen, if_true]
    rfl
  | false =>
    obtain ⟨collision, blitted⟩ :
        ∃ collision, blit machine.memory (strokeList machine.memory machine.index x y height) =
          some (machine.memory, collision) := blit_of_offScreen seen height
    rw [blitted]
    simp [Machine.drawSprite, seen]

end Chip8.Checked
