import Chip8.Memory

/-!
The screen: 32 rows of 64 pixels in the first 256 bytes of memory, a row in eight bytes, the
leftmost pixel in the highest bit. A sprite row is drawn by at most two strokes, one for each byte
it covers; a stroke is an exclusive or into one byte. `pixels` unpacks the bytes, `lit` is a single
pixel and `text` the whole screen.
-/

namespace Chip8.Screen

structure Stroke where
  address : Int
  bits : UInt8
  deriving DecidableEq, Repr

namespace Stroke

def collides (memory : Memory) (stroke : Stroke) : Bool :=
  Table.readOr memory stroke.address 0 &&& stroke.bits ≠ 0

def apply (memory : Memory) (stroke : Stroke) : Memory :=
  Table.write memory stroke.address (Table.readOr memory stroke.address 0 ^^^ stroke.bits)

end Stroke

/-- The strokes of a sprite row that starts at `x` in row `y`. Bits past the last byte of the row
are lost. Addresses are machine integers, so they wrap at 32 bits. -/
def rowStrokes (x y : Int) (bits : UInt8) : List Stroke :=
  let column := x / 8
  let offset := UInt8.ofNat (x % 8).toNat
  let address := (8 * y + column).bmod 0x100000000
  let left : Stroke := ⟨address, bits >>> offset⟩
  if 0 < offset ∧ column < 7 then [left, ⟨address + 1, bits <<< (8 - offset)⟩] else [left]

def onScreen (x y : Int) : Bool := x < screenWidth ∧ y < screenHeight

def visibleRows (y height : Int) : List Nat :=
  (List.range maxSpriteHeight).filter fun row => row < height ∧ y + row < screenHeight

def spriteStrokes (memory : Memory) (index : UInt16) (x y height : Int) : List Stroke :=
  (visibleRows y height).flatMap fun (row : Nat) =>
    rowStrokes x (y + row) (memory.wrapped (index.toNat + row))

/-- Draws the strokes one after the other, and tells whether any of them turned a lit pixel off. The
strokes of a sprite touch each byte once, so all of them see the bytes from before the drawing. -/
def draw (memory : Memory) (strokes : List Stroke) : Memory × Bool :=
  (strokes.foldl Stroke.apply memory, strokes.any (Stroke.collides memory))

def clear (memory : Memory) : Memory := Table.store memory 0 (List.replicate screenBytes 0)

def unpackByte (byte : UInt8) : Vector Bool 8 := .ofFn fun i => byte.toNat.testBit (7 - i)

def unpackRow (bytes : Vector UInt8 8) : Vector Bool 64 := (bytes.map unpackByte).flatten

def byteRows (memory : Memory) : Vector (Vector UInt8 8) 32 :=
  .ofFn fun y => .ofFn fun column => memory[8 * y.val + column]

def transpose {α : Type} {rows columns : Nat} (table : Vector (Vector α columns) rows) :
    Vector (Vector α rows) columns :=
  .ofFn fun x => .ofFn fun y => (table.get y).get x

/-- The unpacked screen, column by column. -/
def pixels (memory : Memory) : Vector (Vector Bool 32) 64 :=
  transpose ((byteRows memory).map unpackRow)

def lit (memory : Memory) (x : Fin 64) (y : Fin 32) : Bool := ((pixels memory).get x).get y

def litPixels (memory : Memory) : List (Fin 64 × Fin 32) :=
  let shown := pixels memory
  (List.finRange 32).flatMap fun y =>
    ((List.finRange 64).filter fun x => (shown.get x).get y).map fun x => (x, y)

def rowText (lightText darkText : String) (row : Vector Bool 64) : String :=
  String.join (row.toList.map fun pixel => if pixel then lightText else darkText)

def lines (memory : Memory) (lightText darkText : String) : List String :=
  (transpose (pixels memory)).toList.map (rowText lightText darkText)

def text (memory : Memory) (lightText darkText : String) : String :=
  "\n".intercalate (lines memory lightText darkText)

theorem get_get_ofFn {α : Type} {rows columns : Nat} (entry : Fin rows → Fin columns → α)
    (y : Fin rows) (x : Fin columns) :
    ((Vector.ofFn fun y => Vector.ofFn (entry y)).get y).get x = entry y x := by
  have row : (Vector.ofFn fun y => Vector.ofFn (entry y)).get y = Vector.ofFn (entry y) :=
    Vector.getElem_ofFn y.isLt
  rw [row]
  exact Vector.getElem_ofFn x.isLt

theorem get_transpose {α : Type} {rows columns : Nat} (table : Vector (Vector α columns) rows)
    (x : Fin columns) (y : Fin rows) : ((transpose table).get x).get y = (table.get y).get x :=
  get_get_ofFn _ x y

theorem get_byteRows (memory : Memory) (y : Fin 32) (column : Fin 8) :
    ((byteRows memory).get y).get column = memory[8 * y.val + column] :=
  get_get_ofFn _ y column

theorem get_unpackRow (bytes : Vector UInt8 8) (x : Fin 64) :
    (unpackRow bytes).get x = (bytes.get ⟨x.val / 8, by omega⟩).toNat.testBit (7 - x.val % 8) := by
  have whole : x.val < 8 * 8 := x.isLt
  refine (Vector.getElem_flatten whole).trans ?_
  rw [Vector.getElem_map, unpackByte, Vector.getElem_ofFn]
  rfl

/-- A pixel is a bit of its byte, the leftmost one the highest. -/
theorem lit_eq_testBit (memory : Memory) (x : Fin 64) (y : Fin 32) :
    lit memory x y = (memory[8 * y.val + x.val / 8]).toNat.testBit (7 - x.val % 8) := by
  have row : ((byteRows memory).map unpackRow).get y = unpackRow ((byteRows memory).get y) :=
    Vector.getElem_map _ _
  rw [lit, pixels, get_transpose, row, get_unpackRow, get_byteRows]

end Chip8.Screen
