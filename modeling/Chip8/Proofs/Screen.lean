import Chip8.Screen

/-!
Strokes seen pixel by pixel. A stroke flips the pixels that it covers, so a row of strokes flips a
pixel as often as it is covered (`lit_foldl_apply`). The strokes of a sprite stand at different
addresses of the screen and cover exactly the pixels of the sprite (`any_covers_spriteStrokes`).
-/

namespace Chip8.Screen

variable {memory : Memory} {px : Fin 64} {py : Fin 32}

namespace Stroke

def Inside (stroke : Stroke) : Prop := 0 ≤ stroke.address ∧ stroke.address < 256

def covers (px : Fin 64) (py : Fin 32) (stroke : Stroke) : Bool :=
  stroke.address = (8 * py.val + px.val / 8 : Nat) && stroke.bits.toNat.testBit (7 - px.val % 8)

def flips (px : Fin 64) (py : Fin 32) (strokes : List Stroke) : Bool :=
  strokes.foldr (fun stroke odd => stroke.covers px py ^^ odd) false

variable {stroke : Stroke} {strokes : List Stroke}

theorem Inside.exists_nat (inside : stroke.Inside) :
    ∃ address : Nat, address < 256 ∧ stroke.address = address := by
  obtain ⟨low, high⟩ := inside
  exact ⟨stroke.address.toNat, by omega, by omega⟩

theorem getElem_apply (inside : stroke.Inside) (memory : Memory) (i : Nat) (small : i < 4096) :
    (stroke.apply memory)[i] =
      if stroke.address = i then memory[i] ^^^ stroke.bits else memory[i] := by
  obtain ⟨address, low, same⟩ := inside.exists_nat
  have within : address < 4096 := by omega
  rw [apply, same, Table.readOr_of_lt memory 0 within, Table.write_of_lt memory _ within,
    Vector.getElem_set]
  by_cases here : address = i
  · subst here
    simp
  · have apart : (address : Int) ≠ i := by omega
    simp [here, apart]

theorem lit_apply (inside : stroke.Inside) (memory : Memory) :
    lit (stroke.apply memory) px py = (lit memory px py ^^ stroke.covers px py) := by
  rw [lit_eq_testBit, lit_eq_testBit, getElem_apply inside]
  by_cases here : stroke.address = (8 * py.val + px.val / 8 : Nat)
  · simp [covers, here]
  · simp only [covers, here, if_false, decide_false, Bool.false_and, Bool.xor_false]

theorem lit_foldl_apply (inside : ∀ stroke ∈ strokes, stroke.Inside) (memory : Memory) :
    lit (strokes.foldl apply memory) px py = (lit memory px py ^^ flips px py strokes) := by
  induction strokes generalizing memory with
  | nil => simp [flips]
  | cons stroke rest ih =>
    rw [List.foldl_cons, ih (fun later member => inside later (List.mem_cons_of_mem _ member)),
      lit_apply (inside stroke List.mem_cons_self)]
    simp [flips]

theorem address_of_covers (covered : stroke.covers px py = true) :
    stroke.address = (8 * py.val + px.val / 8 : Nat) := by
  simp only [covers, Bool.and_eq_true, decide_eq_true_eq] at covered
  exact covered.1

/-- Strokes at different addresses cover a pixel at most once. -/
theorem flips_eq_any (apart : strokes.Pairwise fun stroke later => stroke.address ≠ later.address) :
    flips px py strokes = strokes.any (covers px py) := by
  induction apart with
  | nil => rfl
  | @cons stroke rest others _ ih =>
    have split : flips px py (stroke :: rest) = (stroke.covers px py ^^ flips px py rest) := rfl
    rw [split, ih, List.any_cons]
    cases covered : stroke.covers px py with
    | false => simp
    | true =>
      have alone : rest.any (covers px py) = false := by
        rw [List.any_eq_false]
        intro later member again
        exact others later member ((address_of_covers covered).trans (address_of_covers again).symm)
      simp [alone]

theorem getElem_foldl_apply_of_untouched (inside : ∀ stroke ∈ strokes, stroke.Inside)
    (memory : Memory) (i : Nat) (small : i < 4096)
    (untouched : ∀ stroke ∈ strokes, stroke.address ≠ i) :
    (strokes.foldl apply memory)[i] = memory[i] := by
  induction strokes generalizing memory with
  | nil => rfl
  | cons stroke rest ih =>
    rw [List.foldl_cons, ih (fun later member => inside later (List.mem_cons_of_mem _ member))
        (apply memory stroke) (fun later member => untouched later (List.mem_cons_of_mem _ member)),
      getElem_apply (inside stroke List.mem_cons_self), if_neg (untouched stroke List.mem_cons_self)]

/-- Among strokes at different addresses, one flips its bits of the byte from before all of them. -/
theorem getElem_foldl_apply_of_mem (inside : ∀ stroke ∈ strokes, stroke.Inside)
    (apart : strokes.Pairwise fun stroke later => stroke.address ≠ later.address) (memory : Memory)
    (i : Nat) (small : i < 4096) (member : stroke ∈ strokes) (here : stroke.address = i) :
    (strokes.foldl apply memory)[i] = memory[i] ^^^ stroke.bits := by
  induction apart generalizing memory with
  | nil => exact absurd member List.not_mem_nil
  | @cons first rest others _ ih =>
    have first_inside := inside first List.mem_cons_self
    have rest_inside (later : Stroke) (member : later ∈ rest) : later.Inside :=
      inside later (List.mem_cons_of_mem _ member)
    rw [List.foldl_cons]
    rcases List.mem_cons.mp member with rfl | later
    · have untouched (other : Stroke) (member : other ∈ rest) : other.address ≠ i :=
        here ▸ (others other member).symm
      rw [getElem_foldl_apply_of_untouched rest_inside _ i small untouched,
        getElem_apply first_inside, if_pos here]
    · have elsewhere : first.address ≠ i := here ▸ others stroke later
      rw [ih rest_inside _ later, getElem_apply first_inside, if_neg elsewhere]

theorem getElem_foldl_apply (inside : ∀ stroke ∈ strokes, stroke.Inside) (memory : Memory) (i : Nat)
    (small : i < 4096) (behind : 256 ≤ i) : (strokes.foldl apply memory)[i] = memory[i] := by
  apply getElem_foldl_apply_of_untouched inside memory i small
  intro stroke member
  obtain ⟨low, high⟩ := inside stroke member
  omega

end Stroke

theorem rowStrokes_of_inside (x : Fin 64) (y : Fin 32) (bits : UInt8) :
    rowStrokes x.val y.val bits =
      let left : Stroke := ⟨(8 * y.val + x.val / 8 : Nat), bits >>> UInt8.ofNat (x.val % 8)⟩
      if 0 < x.val % 8 ∧ x.val / 8 < 7 then
        [left, ⟨(8 * y.val + x.val / 8 + 1 : Nat), bits <<< (8 - UInt8.ofNat (x.val % 8))⟩]
      else [left] := by
  have near : (8 * (y.val : Int) + (x.val : Int) / 8).bmod 0x100000000 =
      (8 * y.val + x.val / 8 : Nat) := by
    rw [Int.bmod_eq_of_le_mul_two] <;> omega
  have offset : ((x.val : Int) % 8).toNat = x.val % 8 := by omega
  have spills : 0 < UInt8.ofNat (x.val % 8) ↔ 0 < x.val % 8 := by
    rw [UInt8.lt_iff_toNat_lt]
    simp
    omega
  have room : (x.val : Int) / 8 < 7 ↔ x.val / 8 < 7 := by omega
  simp only [rowStrokes, near, offset, spills, room]
  rfl

theorem mem_rowStrokes (x : Fin 64) (y : Fin 32) (bits : UInt8) {address : Nat} {flipped : UInt8} :
    (⟨address, flipped⟩ : Stroke) ∈ rowStrokes x.val y.val bits ↔
      (address = 8 * y.val + x.val / 8 ∧ flipped = bits >>> UInt8.ofNat (x.val % 8)) ∨
      (0 < x.val % 8 ∧ x.val / 8 < 7) ∧ address = 8 * y.val + x.val / 8 + 1 ∧
        flipped = bits <<< (8 - UInt8.ofNat (x.val % 8)) := by
  rw [rowStrokes_of_inside]
  dsimp only
  split
  · rename_i spills
    simp only [List.mem_cons, List.not_mem_nil, or_false, Stroke.mk.injEq, Int.natCast_inj, spills,
      true_and]
  · rename_i whole
    simp only [List.mem_singleton, Stroke.mk.injEq, Int.natCast_inj, whole, false_and, or_false]

def rowCovers (x : Nat) (bits : UInt8) (px : Fin 64) : Bool :=
  (x ≤ px.val ∧ px.val < x + 8) && bits.toNat.testBit (7 - (px.val - x))

theorem testBit_of_le (byte : UInt8) {i : Nat} (high : 8 ≤ i) : byte.toNat.testBit i = false :=
  Nat.testBit_lt_two_pow (Nat.lt_of_lt_of_le byte.toNat_lt (Nat.pow_le_pow_right (by decide) high))

theorem testBit_shiftRight (bits : UInt8) {offset : Nat} (small : offset < 8) (i : Nat) :
    (bits >>> UInt8.ofNat offset).toNat.testBit i = bits.toNat.testBit (offset + i) := by
  have amount : (UInt8.ofNat offset).toNat % 8 = offset := by
    rw [UInt8.toNat_ofNat']
    omega
  rw [UInt8.toNat_shiftRight, amount, Nat.testBit_shiftRight]

theorem testBit_shiftLeft (bits : UInt8) {offset i : Nat} (off : 0 < offset) (small : offset < 8)
    (low : i < 8) :
    (bits <<< (8 - UInt8.ofNat offset)).toNat.testBit i =
      (8 - offset ≤ i && bits.toNat.testBit (i - (8 - offset))) := by
  have amount : (8 - UInt8.ofNat offset).toNat % 8 = 8 - offset := by
    rw [UInt8.toNat_sub, UInt8.toNat_ofNat']
    simp
    omega
  rw [UInt8.toNat_shiftLeft, amount, Nat.testBit_mod_two_pow, Nat.testBit_shiftLeft]
  simp [low]

theorem covers_left (x : Fin 64) (y : Fin 32) (bits : UInt8) :
    Stroke.covers px py ⟨(8 * y.val + x.val / 8 : Nat), bits >>> UInt8.ofNat (x.val % 8)⟩ = true ↔
      py = y ∧ px.val / 8 = x.val / 8 ∧ rowCovers x bits px = true := by
  have small : x.val % 8 < 8 := Nat.mod_lt _ (by decide)
  simp only [Stroke.covers, testBit_shiftRight bits small, rowCovers, Bool.and_eq_true,
    decide_eq_true_eq]
  constructor
  · rintro ⟨address, bit⟩
    have column : px.val / 8 = x.val / 8 := by omega
    have right : x.val % 8 ≤ px.val % 8 := by
      apply Nat.le_of_not_lt
      intro left
      rw [testBit_of_le bits (by omega)] at bit
      exact Bool.noConfusion bit
    have index : 7 - (px.val - x.val) = x.val % 8 + (7 - px.val % 8) := by omega
    refine ⟨by omega, column, by omega, ?_⟩
    rw [index]
    exact bit
  · rintro ⟨rfl, column, ⟨left, right⟩, bit⟩
    have index : 7 - (px.val - x.val) = x.val % 8 + (7 - px.val % 8) := by omega
    refine ⟨by omega, ?_⟩
    rw [← index]
    exact bit

theorem covers_right (x : Fin 64) (y : Fin 32) (bits : UInt8) (off : 0 < x.val % 8)
    (room : x.val / 8 < 7) :
    Stroke.covers px py
        ⟨(8 * y.val + x.val / 8 + 1 : Nat), bits <<< (8 - UInt8.ofNat (x.val % 8))⟩ = true ↔
      py = y ∧ px.val / 8 = x.val / 8 + 1 ∧ rowCovers x bits px = true := by
  have small : x.val % 8 < 8 := Nat.mod_lt _ (by decide)
  have low : 7 - px.val % 8 < 8 := by omega
  simp only [Stroke.covers, testBit_shiftLeft bits off small low, rowCovers, Bool.and_eq_true,
    decide_eq_true_eq]
  constructor
  · rintro ⟨address, left, bit⟩
    have index : 7 - (px.val - x.val) = 7 - px.val % 8 - (8 - x.val % 8) := by omega
    refine ⟨by omega, by omega, by omega, ?_⟩
    rw [index]
    exact bit
  · rintro ⟨rfl, column, ⟨left, right⟩, bit⟩
    have index : 7 - (px.val - x.val) = 7 - px.val % 8 - (8 - x.val % 8) := by omega
    refine ⟨by omega, by omega, ?_⟩
    rw [← index]
    exact bit

theorem rowCovers_bounds {x : Nat} {bits : UInt8} (covered : rowCovers x bits px = true) :
    x ≤ px.val ∧ px.val < x + 8 := by
  simp only [rowCovers, Bool.and_eq_true, decide_eq_true_eq] at covered
  exact covered.1

theorem any_covers_rowStrokes (x : Fin 64) (y : Fin 32) (bits : UInt8) :
    (rowStrokes x.val y.val bits).any (Stroke.covers px py) =
      (decide (py = y) && rowCovers x bits px) := by
  rw [Bool.eq_iff_iff, rowStrokes_of_inside]
  dsimp only
  split
  · rename_i spills
    simp only [List.any_cons, List.any_nil, Bool.or_false, Bool.or_eq_true, Bool.and_eq_true,
      decide_eq_true_eq, covers_left, covers_right x y bits spills.1 spills.2]
    constructor
    · rintro (⟨row, -, covered⟩ | ⟨row, -, covered⟩)
      · exact ⟨row, covered⟩
      · exact ⟨row, covered⟩
    · rintro ⟨row, covered⟩
      have bounds := rowCovers_bounds covered
      by_cases same : px.val / 8 = x.val / 8
      · exact .inl ⟨row, same, covered⟩
      · exact .inr ⟨row, by omega, covered⟩
  · rename_i whole
    simp only [List.any_cons, List.any_nil, Bool.or_false, Bool.and_eq_true, decide_eq_true_eq,
      covers_left]
    constructor
    · rintro ⟨row, -, covered⟩
      exact ⟨row, covered⟩
    · rintro ⟨row, covered⟩
      have bounds := rowCovers_bounds covered
      exact ⟨row, by omega, covered⟩

theorem rowStrokes_inside (x : Fin 64) (y : Fin 32) (bits : UInt8) :
    ∀ stroke ∈ rowStrokes x.val y.val bits,
      8 * (y.val : Int) ≤ stroke.address ∧ stroke.address < 8 * (y.val : Int) + 8 := by
  intro stroke member
  rw [rowStrokes_of_inside] at member
  dsimp only at member
  split at member
  · simp only [List.mem_cons, List.not_mem_nil, or_false] at member
    rcases member with rfl | rfl <;> dsimp only <;> omega
  · simp only [List.mem_cons, List.not_mem_nil, or_false] at member
    rw [member]
    dsimp only
    omega

theorem rowStrokes_apart (x : Fin 64) (y : Fin 32) (bits : UInt8) :
    (rowStrokes x.val y.val bits).Pairwise fun stroke later => stroke.address ≠ later.address := by
  rw [rowStrokes_of_inside]
  dsimp only
  split
  · rw [List.pairwise_cons]
    refine ⟨?_, List.pairwise_singleton _ _⟩
    intro later member
    rw [List.mem_singleton.mp member]
    dsimp only
    omega
  · exact List.pairwise_singleton _ _

/-- Whether a sprite covers a pixel. At most fifteen of its rows count. -/
def spriteCovers (memory : Memory) (index : UInt16) (x y : Nat) (height : Int) (px : Fin 64)
    (py : Fin 32) : Bool :=
  (y ≤ py.val ∧ (py.val : Int) < y + min (max height 0) 15) &&
    rowCovers x (memory.wrapped (index.toNat + (py.val - y))) px

theorem onScreen_iff {x y : Nat} : onScreen x y = true ↔ x < 64 ∧ y < 32 := by
  rw [onScreen, decide_eq_true_eq]
  simp only [screenWidth, screenHeight]
  omega

theorem mem_visibleRows {y row : Nat} {height : Int} :
    row ∈ visibleRows y height ↔ row < 15 ∧ (row : Int) < height ∧ y + row < 32 := by
  rw [visibleRows, List.mem_filter, List.mem_range, decide_eq_true_eq]
  simp only [maxSpriteHeight, screenHeight]
  omega

section Sprite

variable (memory : Memory) (index : UInt16) (x : Fin 64) (y : Fin 32) (height : Int)

theorem mem_spriteStrokes {stroke : Stroke} :
    stroke ∈ spriteStrokes memory index x.val y.val height ↔
      ∃ row : Fin 32, y ≤ row ∧ (row.val : Int) < y.val + min (max height 0) 15 ∧
        stroke ∈ rowStrokes x.val row.val (memory.wrapped (index.toNat + (row.val - y.val))) := by
  rw [spriteStrokes, List.mem_flatMap]
  constructor
  · rintro ⟨row, visible, member⟩
    obtain ⟨few, drawn, above⟩ := mem_visibleRows.mp visible
    refine ⟨⟨y.val + row, above⟩, by simp [Fin.le_def], ?_, ?_⟩
    · dsimp only
      omega
    · simpa using member
  · rintro ⟨row, below, drawn, member⟩
    have shift : y.val + (row.val - y.val) = row.val := Nat.add_sub_cancel' below
    refine ⟨row.val - y.val, mem_visibleRows.mpr (by omega), ?_⟩
    rw [← Int.natCast_add, shift]
    exact member

theorem spriteStrokes_inside :
    ∀ stroke ∈ spriteStrokes memory index x.val y.val height, stroke.Inside := by
  intro stroke member
  obtain ⟨row, -, -, member⟩ := (mem_spriteStrokes memory index x y height).mp member
  have bounds := rowStrokes_inside x row _ stroke member
  exact ⟨by omega, by omega⟩

theorem any_covers_spriteStrokes :
    (spriteStrokes memory index x.val y.val height).any (Stroke.covers px py) =
      spriteCovers memory index x.val y.val height px py := by
  have row (row : Fin 32) (bits : UInt8) :
      (∃ stroke ∈ rowStrokes x.val row.val bits, stroke.covers px py = true) ↔
        py = row ∧ rowCovers x bits px = true := by
    rw [← List.any_eq_true, any_covers_rowStrokes, Bool.and_eq_true, decide_eq_true_eq]
  rw [Bool.eq_iff_iff, List.any_eq_true, spriteCovers, Bool.and_eq_true, decide_eq_true_eq]
  constructor
  · rintro ⟨stroke, member, covered⟩
    obtain ⟨line, below, drawn, member⟩ := (mem_spriteStrokes memory index x y height).mp member
    obtain ⟨rfl, covered⟩ := (row line _).mp ⟨stroke, member, covered⟩
    exact ⟨⟨below, drawn⟩, covered⟩
  · rintro ⟨⟨below, drawn⟩, covered⟩
    obtain ⟨stroke, member, covered⟩ := (row py _).mpr ⟨rfl, covered⟩
    have drawnStroke := (mem_spriteStrokes memory index x y height).mpr ⟨py, below, drawn, member⟩
    exact ⟨stroke, drawnStroke, covered⟩

theorem spriteStrokes_apart :
    (spriteStrokes memory index x.val y.val height).Pairwise fun stroke later =>
      stroke.address ≠ later.address := by
  have line {row : Nat} (visible : row ∈ visibleRows y.val height) :
      ∃ line : Fin 32, line.val = y.val + row ∧ (y.val : Int) + row = line.val := by
    obtain ⟨-, -, above⟩ := mem_visibleRows.mp visible
    exact ⟨⟨y.val + row, above⟩, rfl, by simp⟩
  have ascending : (visibleRows y.val height).Pairwise (· < ·) :=
    List.pairwise_lt_range.filter _
  rw [spriteStrokes, List.pairwise_flatMap]
  constructor
  · intro row visible
    obtain ⟨line, -, same⟩ := line visible
    rw [same]
    exact rowStrokes_apart x line _
  · apply ascending.imp_of_mem
    intro row lower visible visible' above stroke member stroke' member'
    obtain ⟨upperLine, place, same⟩ := line visible
    obtain ⟨lowerLine, place', same'⟩ := line visible'
    rw [same] at member
    rw [same'] at member'
    have bounds := rowStrokes_inside x upperLine _ stroke member
    have bounds' := rowStrokes_inside x lowerLine _ stroke' member'
    omega

end Sprite

theorem ne_zero_iff_exists_testBit {byte : UInt8} :
    byte ≠ 0 ↔ ∃ i < 8, byte.toNat.testBit i = true := by
  constructor
  · intro some
    have nat : byte.toNat ≠ 0 := fun zero => some (UInt8.toNat_inj.mp zero)
    obtain ⟨i, bit⟩ := Nat.exists_testBit_of_ne_zero nat
    refine ⟨i, Nat.lt_of_not_le fun high => ?_, bit⟩
    rw [testBit_of_le byte high] at bit
    exact Bool.noConfusion bit
  · rintro ⟨i, -, bit⟩ rfl
    simp at bit

/-- A stroke turns a lit pixel off when one is among those that it covers. -/
theorem Stroke.collides_iff {stroke : Stroke} (inside : stroke.Inside) :
    stroke.collides memory = true ↔
      ∃ px py, lit memory px py = true ∧ stroke.covers px py = true := by
  obtain ⟨address, low, same⟩ := inside.exists_nat
  have within : address < 4096 := by omega
  rw [collides, same, Table.readOr_of_lt memory 0 within, decide_eq_true_eq,
    ne_zero_iff_exists_testBit]
  simp only [UInt8.toNat_and, Nat.testBit_and, Bool.and_eq_true]
  constructor
  · rintro ⟨i, small, bits⟩
    have place : 8 * (address / 8) + (8 * (address % 8) + (7 - i)) / 8 = address := by omega
    have bit : 7 - (8 * (address % 8) + (7 - i)) % 8 = i := by omega
    refine ⟨⟨8 * (address % 8) + (7 - i), by omega⟩, ⟨address / 8, by omega⟩, ?_⟩
    simp only [lit_eq_testBit, covers, place, bit, same, decide_true, Bool.true_and]
    exact bits
  · rintro ⟨px, py, bright, covered⟩
    rw [lit_eq_testBit] at bright
    have here := address_of_covers covered
    rw [same] at here
    have here' : address = 8 * py.val + px.val / 8 := by omega
    subst here'
    simp only [covers, Bool.and_eq_true] at covered
    exact ⟨7 - px.val % 8, by omega, bright, covered.2⟩

theorem any_collides_spriteStrokes (memory : Memory) (index : UInt16) (x : Fin 64) (y : Fin 32)
    (height : Int) :
    (spriteStrokes memory index x.val y.val height).any (Stroke.collides memory) = true ↔
      ∃ px py, lit memory px py = true ∧
        spriteCovers memory index x.val y.val height px py = true := by
  have inside := spriteStrokes_inside memory index x y height
  simp only [← any_covers_spriteStrokes, List.any_eq_true]
  constructor
  · rintro ⟨stroke, member, collision⟩
    obtain ⟨px, py, bright, covered⟩ := (Stroke.collides_iff (inside stroke member)).mp collision
    exact ⟨px, py, bright, stroke, member, covered⟩
  · rintro ⟨px, py, bright, stroke, member, covered⟩
    exact ⟨stroke, member, (Stroke.collides_iff (inside stroke member)).mpr ⟨px, py, bright, covered⟩⟩

theorem testBit_eq_lit (memory : Memory) {i bit : Nat} (shown : i < 256) (low : bit < 8) :
    memory[i].toNat.testBit bit =
      lit memory ⟨8 * (i % 8) + (7 - bit), by omega⟩ ⟨i / 8, by omega⟩ := by
  have place : 8 * (i / 8) + (8 * (i % 8) + (7 - bit)) / 8 = i := by omega
  have column : 7 - (8 * (i % 8) + (7 - bit)) % 8 = bit := by omega
  simp only [lit_eq_testBit, place, column]

/-- The pixels are all that the screen holds, so they and the memory behind it make up the memory. -/
theorem memory_ext {first second : Memory} (pixels : ∀ px py, lit first px py = lit second px py)
    (behind : ∀ (i : Nat) (small : i < 4096), screenBytes ≤ i → first[i] = second[i]) :
    first = second := by
  apply Vector.ext
  intro i small
  by_cases shown : i < 256
  · rw [← UInt8.toNat_inj]
    apply Nat.eq_of_testBit_eq
    intro bit
    by_cases high : 8 ≤ bit
    · rw [testBit_of_le _ high, testBit_of_le _ high]
    · have low : bit < 8 := Nat.lt_of_not_le high
      rw [testBit_eq_lit first shown low, testBit_eq_lit second shown low, pixels]
  · exact behind i small (Nat.le_of_not_lt shown)

end Chip8.Screen
