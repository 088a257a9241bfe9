import Chip8.Layout
import Chip8.Table

/-!
The call stack: sixteen return addresses and a signed pointer to the next free slot. Neither `push`
nor `pop` looks at the pointer first; instructions ask `isFull` and `isEmpty` before they use them.
-/

namespace Chip8

structure Stack where
  slots : Vector UInt16 16
  pointer : Int32
  deriving DecidableEq

namespace Stack

def empty : Stack := ⟨Vector.replicate 16 0, 0⟩

def isEmpty (stack : Stack) : Bool := stack.pointer ≤ 0

def isFull (stack : Stack) : Bool := 16 ≤ stack.pointer

def push (stack : Stack) (address : UInt16) : Stack :=
  ⟨Table.write stack.slots stack.pointer.toInt address, stack.pointer + 1⟩

/-- The address below the pointer, and the stack without it. The slot is cleared. -/
def pop (stack : Stack) : UInt16 × Stack :=
  let top := stack.pointer - 1
  (Table.readNearest stack.slots top.toInt, ⟨Table.write stack.slots top.toInt 0, top⟩)

end Stack

end Chip8
