/-!
The random key of the machine and the bytes drawn from it. A key is two words; each draw replaces it
by `next` and yields `byte`. Both come from Threefry-2x32 with twenty rounds: `block` enciphers a
two-word counter under the key.
-/

namespace Chip8

structure RandomKey where
  first : UInt32
  second : UInt32
  deriving DecidableEq, Repr

namespace RandomKey

def rotateLeft (word count : UInt32) : UInt32 :=
  (word <<< count) ||| (word >>> (32 - count))

def mix (x : RandomKey) (rotation : UInt32) : RandomKey :=
  let sum := x.first + x.second
  ⟨sum, rotateLeft x.second rotation ^^^ sum⟩

def group (x : RandomKey) (rotations : List UInt32) (injected : RandomKey) (number : UInt32) :
    RandomKey :=
  let mixed := rotations.foldl mix x
  ⟨mixed.first + injected.first, mixed.second + injected.second + number⟩

def evenRotations : List UInt32 := [13, 15, 26, 6]

def oddRotations : List UInt32 := [17, 29, 16, 24]

/-- The third word of the key schedule ties the other two to a fixed parity constant. -/
def parity (key : RandomKey) : UInt32 := key.first ^^^ key.second ^^^ 0x1BD11BDA

def block (key : RandomKey) (counter0 counter1 : UInt32) : RandomKey :=
  let start : RandomKey := ⟨counter0 + key.first, counter1 + key.second⟩
  let x := group start evenRotations ⟨key.second, key.parity⟩ 1
  let x := group x oddRotations ⟨key.parity, key.first⟩ 2
  let x := group x evenRotations ⟨key.first, key.second⟩ 3
  let x := group x oddRotations ⟨key.second, key.parity⟩ 4
  group x evenRotations ⟨key.parity, key.first⟩ 5

def next (key : RandomKey) : RandomKey := key.block 0 0

def drawn (key : RandomKey) : RandomKey := key.block 0 1

def byte (key : RandomKey) : UInt8 :=
  let bits := (key.drawn.block 0 1).block 0 0
  (bits.first ^^^ bits.second).toUInt8

/-- The key of a 64-bit signed seed keeps the low word of the seed; other seeds have none. -/
def ofSeed? (seed : Int) : Option RandomKey :=
  if -0x8000000000000000 ≤ seed ∧ seed < 0x8000000000000000 then some ⟨0, UInt32.ofInt seed⟩
  else none

end RandomKey

end Chip8
