import Chip8.Font
import Chip8.Layout
import Chip8.Table

/-!
The memory of the machine and host access to spans of it. A span is given by its start and its
length; negative bounds count from the end and both bounds are cut to the memory, so a span may turn
out shorter than its length or empty.
-/

namespace Chip8

abbrev Memory := Vector UInt8 4096

namespace Memory

def initial : Memory := Table.store (Vector.replicate 4096 0) fontStart font

def wrapped (memory : Memory) (address : Nat) : UInt8 :=
  memory.get ⟨address % 4096, Nat.mod_lt _ (by decide)⟩

def bound (position : Int) : Nat := min (Table.fromEnd 4096 position).toNat 4096

def read (memory : Memory) (address length : Int) : List UInt8 :=
  let start := bound address
  (memory.toList.drop start).take (bound (address + length) - start)

/-- Writes all of the bytes or none. An empty span takes nothing, whatever the bytes; a span that is
cut shorter than the bytes refuses them. -/
def write? (memory : Memory) (address : Int) (bytes : List UInt8) : Option Memory :=
  let start := bound address
  let room := bound (address + bytes.length) - start
  if room = 0 then some memory
  else if room < bytes.length then none
  else some (Table.store memory start bytes)

theorem bound_le (position : Int) : bound position ≤ 4096 := by
  unfold bound
  omega

end Memory

end Chip8
