import Chip8.Machine.Basic
import Chip8.Proofs.Screen
import Mathlib.Data.Nat.Bitwise

/-!
The screen as text. A text shows 32 rows of 64 characters with line feeds between them, and the
character of a pixel tells whether it is lit, so the text holds the whole screen: its bytes are read
back from the places of their pixels (`byteInText`). Where neither character is a line feed, the rows
are the lines of the text; a line feed that stands for pixels breaks them up.
-/

namespace Chip8.Screen

variable {memory other : Memory} {on off : Char}

def characters (memory : Memory) (on off : Char) : Vector (Vector Char 64) 32 :=
  (transpose (pixels memory)).map fun row => row.map fun pixel => if pixel then on else off

def litInText (on : Char) (text : String) (x y : Nat) : Bool :=
  -- A row takes 64 characters and a line feed.
  text.toList[65 * y + x]? = some on

def byteInText (on : Char) (text : String) (address : Nat) : UInt8 :=
  UInt8.ofNat (Nat.ofBits fun bit : Fin 8 =>
    litInText on text (8 * (address % 8) + (7 - bit.val)) (address / 8))

@[simp] theorem getElem_characters (memory : Memory) (on off : Char) (x : Fin 64) (y : Fin 32) :
    (characters memory on off)[y][x] = if lit memory x y then on else off := by
  have pixel : (transpose (pixels memory))[y][x] = lit memory x y := get_transpose _ y x
  rw [← pixel]
  simp only [characters, Fin.getElem_fin, Vector.getElem_map]

theorem getElem_characters_eq_on (distinct : on ≠ off) {x : Fin 64} {y : Fin 32} :
    (characters memory on off)[y][x] = on ↔ lit memory x y = true := by
  rw [getElem_characters]
  split <;> simp [*, distinct.symm]

theorem getElem_characters_eq_off (distinct : on ≠ off) {x : Fin 64} {y : Fin 32} :
    (characters memory on off)[y][x] = off ↔ lit memory x y = false := by
  rw [getElem_characters]
  split <;> simp [*]

theorem toList_rowText (on off : Char) (row : Vector Bool 64) :
    (rowText (.singleton on) (.singleton off) row).toList =
      (row.map fun pixel => if pixel then on else off).toList := by
  have shown (pixel : Bool) : (if pixel then String.singleton on
      else String.singleton off).toList = [if pixel then on else off] := by
    split <;> exact String.toList_singleton _
  rw [rowText, String.toList_join, List.flatMap_map, Vector.toList_map]
  simp only [shown]
  exact List.map_eq_flatMap.symm

theorem map_toList_lines (memory : Memory) (on off : Char) :
    (lines memory (.singleton on) (.singleton off)).map String.toList =
      (characters memory on off).toList.map Vector.toList := by
  rw [lines, characters, Vector.toList_map, List.map_map, List.map_map]
  exact List.map_congr_left fun row _ => toList_rowText on off row

theorem toList_text (memory : Memory) (on off : Char) :
    (text memory (.singleton on) (.singleton off)).toList =
      ['\n'].intercalate ((characters memory on off).toList.map Vector.toList) := by
  rw [text, String.toList_intercalate, map_toList_lines]
  rfl

/-- In rows of one width with a separator between them, an entry stands at a place that its row and
its column tell. -/
theorem getElem?_intercalate {α : Type} (separator : α) {rows : List (List α)} {width : Nat}
    (uniform : ∀ row ∈ rows, row.length = width) {x y : Nat} (narrow : x < width)
    (small : y < rows.length) :
    ([separator].intercalate rows)[(width + 1) * y + x]? = rows[y][x]? := by
  induction rows generalizing y with
  | nil => exact absurd small (Nat.not_lt_zero y)
  | cons row rest ih =>
    have length : row.length = width := uniform row List.mem_cons_self
    have rest_uniform : ∀ row ∈ rest, row.length = width :=
      fun later member => uniform later (List.mem_cons_of_mem row member)
    have within : x < row.length := by omega
    cases y with
    | zero =>
      rw [Nat.mul_zero, Nat.zero_add, List.getElem_cons_zero]
      cases rest with
      | nil => rw [List.intercalate_singleton]
      | cons next rest =>
        rw [List.intercalate_cons_cons, List.append_assoc, List.getElem?_append_left within]
    | succ y =>
      -- The first row and its separator shift the place by one more than the width.
      have later : y < rest.length := by simpa using small
      obtain ⟨next, rest, rfl⟩ := List.exists_cons_of_length_pos (Nat.zero_lt_of_lt later)
      have place :
          (width + 1) * (y + 1) + x = (row ++ [separator]).length + ((width + 1) * y + x) := by
        rw [List.length_append, length, Nat.mul_succ]
        simp only [List.length_singleton]
        omega
      rw [List.intercalate_cons_cons, place, List.getElem?_append_right (Nat.le_add_right _ _),
        Nat.add_sub_cancel_left, ih rest_uniform later, List.getElem_cons_succ]

theorem getElem?_text (memory : Memory) (on off : Char) (x : Fin 64) (y : Fin 32) :
    (text memory (.singleton on) (.singleton off)).toList[65 * y.val + x.val]? =
      some (if lit memory x y then on else off) := by
  have uniform : ∀ row ∈ (characters memory on off).toList.map Vector.toList, row.length = 64 := by
    intro row member
    obtain ⟨chars, -, rfl⟩ := List.mem_map.mp member
    exact chars.length_toList
  rw [toList_text, getElem?_intercalate '\n' uniform x.isLt (by simp), ← getElem_characters]
  simp

theorem litInText_text (distinct : on ≠ off) (x : Fin 64) (y : Fin 32) :
    litInText on (text memory (.singleton on) (.singleton off)) x y = lit memory x y := by
  rw [litInText, getElem?_text, Bool.eq_iff_iff, decide_eq_true_eq, Option.some_inj]
  split <;> simp [*, distinct.symm]

theorem byteInText_text (memory : Memory) (distinct : on ≠ off) {i : Nat} (small : i < 256) :
    byteInText on (text memory (.singleton on) (.singleton off)) i = memory[i] := by
  rw [← UInt8.toNat_inj]
  apply Nat.eq_of_testBit_eq
  intro bit
  by_cases high : 8 ≤ bit
  · rw [testBit_of_le _ high, testBit_of_le _ high]
  · have low : bit < 8 := Nat.lt_of_not_le high
    rw [byteInText, UInt8.toNat_ofNat', Nat.testBit_mod_two_pow, Nat.testBit_ofBits_lt _ _ low,
      testBit_eq_lit memory small low, ← litInText_text distinct]
    simp only [low, decide_true, Bool.true_and]

/-- A text tells no more than the bytes of the screen. -/
theorem text_congr (same : ∀ (i : Nat) (small : i < 256), memory[i] = other[i])
    (lightText darkText : String) :
    text memory lightText darkText = text other lightText darkText := by
  have bytes : byteRows memory = byteRows other := by
    ext y small column narrow
    simp only [byteRows, Vector.getElem_ofFn]
    rw [same _ (by omega)]
  rw [text, text, lines, lines, pixels, pixels, bytes]

theorem mem_litPixels {x : Fin 64} {y : Fin 32} :
    (x, y) ∈ litPixels memory ↔ lit memory x y = true := by
  simp [litPixels, lit]

theorem feed_notMem_characters (on_shown : on ≠ '\n') (off_shown : off ≠ '\n') :
    ∀ row ∈ (characters memory on off).toList.map Vector.toList, '\n' ∉ row := by
  intro row member feed
  obtain ⟨chars, inside, rfl⟩ := List.mem_map.mp member
  obtain ⟨y, small, rfl⟩ := Vector.getElem_of_mem (Vector.mem_toList_iff.mp inside)
  obtain ⟨x, narrow, found⟩ := Vector.getElem_of_mem (Vector.mem_toList_iff.mp feed)
  have shown := getElem_characters memory on off ⟨x, narrow⟩ ⟨y, small⟩
  rw [Fin.getElem_fin, Fin.getElem_fin, found] at shown
  split at shown
  · exact on_shown shown.symm
  · exact off_shown shown.symm

/-- Where no pixel is shown by a line feed, the rows of characters are the lines of the text. -/
theorem splitOn_text (on_shown : on ≠ '\n') (off_shown : off ≠ '\n') :
    (text memory (.singleton on) (.singleton off)).toList.splitOn '\n' =
      (characters memory on off).toList.map Vector.toList := by
  rw [toList_text]
  apply List.splitOn_intercalate _ (feed_notMem_characters on_shown off_shown)
  intro none
  simpa using congrArg List.length none

theorem nil_mem_splitOn_text (feed : (if lit memory 0 0 then on else off) = '\n') :
    [] ∈ (text memory (.singleton on) (.singleton off)).toList.splitOn '\n' := by
  have first := getElem?_text memory on off 0 0
  rw [feed] at first
  obtain ⟨rest, starts⟩ : ∃ rest,
      (text memory (.singleton on) (.singleton off)).toList = '\n' :: rest := by
    cases chars : (text memory (.singleton on) (.singleton off)).toList with
    | nil => simp [chars] at first
    | cons head rest => exact ⟨rest, by simpa [chars] using first⟩
  rw [starts, List.splitOn_eq_splitOnP, List.splitOnP_cons_eq_if_modifyHead]
  exact List.mem_cons_self

theorem lit_initial (x : Fin 64) (y : Fin 32) : lit Memory.initial x y = false := by
  have before : ¬ (fontStart ≤ 8 * y.val + x.val / 8 ∧
      8 * y.val + x.val / 8 < fontStart + font.length) := by
    simp only [fontStart]
    omega
  rw [lit_eq_testBit, Memory.initial, Table.getElem_store, dif_neg before, Vector.getElem_replicate]
  exact Nat.zero_testBit _

/-- Rendering loses nothing. A text with distinct characters for the lit and the dark pixels is 32
rows of 64 characters, which are its lines unless a line feed stands for pixels; a character tells the
bit of its pixel, and so do the unpacked screen and the list of lit pixels. The bytes of the screen are
read back from the text, so two memories have the same text exactly when their screens agree. -/
theorem text_holds_screen (memory other : Memory) {on off : Char} (distinct : on ≠ off) :
    let shown := text memory (.singleton on) (.singleton off)
    (∃ rows : Vector (Vector Char 64) 32,
      shown.toList = ['\n'].intercalate (rows.toList.map Vector.toList) ∧
      (on ≠ '\n' → off ≠ '\n' → shown.toList.splitOn '\n' = rows.toList.map Vector.toList) ∧
      ∀ (y : Fin 32) (x : Fin 64),
        let bit := (memory[8 * y.val + x.val / 8]).toNat.testBit (7 - x.val % 8)
        (rows[y][x] = on ↔ bit = true) ∧ (rows[y][x] = off ↔ bit = false) ∧
        ((pixels memory).get x).get y = bit ∧ ((x, y) ∈ litPixels memory ↔ bit = true)) ∧
    (∀ (i : Nat) (small : i < 256), byteInText on shown i = memory[i]) ∧
    (shown = text other (.singleton on) (.singleton off) ↔
      ∀ (i : Nat) (small : i < 256), memory[i] = other[i]) := by
  intro shown
  refine ⟨⟨characters memory on off, toList_text memory on off, splitOn_text, fun y x => ?_⟩,
    fun i small => byteInText_text memory distinct small, ?_⟩
  · refine ⟨?_, ?_, lit_eq_testBit memory x y, ?_⟩ <;> rw [← lit_eq_testBit]
    · exact getElem_characters_eq_on distinct
    · exact getElem_characters_eq_off distinct
    · exact mem_litPixels
  · constructor
    · intro same i small
      rw [← byteInText_text memory distinct small, ← byteInText_text other distinct small, ← same]
    · intro same
      exact text_congr same _ _

theorem text_holds_screen_corner :
    let corner : Memory := (Vector.replicate 4096 0).set 0 0x80
    let dark : Memory := Vector.replicate 4096 0
    '#' ≠ '.' ∧
    byteInText '#' (text corner (.singleton '#') (.singleton '.')) 0 = 0x80 ∧
    text corner (.singleton '#') (.singleton '.') ≠ text dark (.singleton '#') (.singleton '.') := by
  intro corner dark
  have distinct : '#' ≠ '.' := by decide
  obtain ⟨-, bytes, same⟩ := text_holds_screen corner dark distinct
  have bright : corner[0] = 0x80 := Vector.getElem_set_self (by decide)
  have black : dark[0] = 0 := Vector.getElem_replicate (by decide)
  refine ⟨distinct, (bytes 0 (by decide)).trans bright, fun equal => ?_⟩
  have agree := same.mp equal 0 (by decide)
  rw [bright, black] at agree
  exact absurd agree (by decide)

/-- Where a line feed stands for the dark pixels, the dark screen of a new machine is not 32 lines of
64 characters. -/
theorem text_broken_by_feeds :
    let lines := (text Memory.initial (.singleton '#') (.singleton '\n')).toList.splitOn '\n'
    '#' ≠ '\n' ∧ ¬ (lines.length = 32 ∧ ∀ line ∈ lines, line.length = 64) := by
  intro lines
  refine ⟨by decide, fun ⟨_, wide⟩ => ?_⟩
  have empty : [] ∈ lines := nil_mem_splitOn_text (by rw [lit_initial]; rfl)
  exact absurd (wide [] empty) (by decide)

end Chip8.Screen
