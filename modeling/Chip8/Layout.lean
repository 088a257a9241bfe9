/-!
Sizes and addresses of a CHIP-8 machine. The screen is the first 256 bytes of memory, the font
follows it at 0x100, and programs live from 0x200 to the end.
-/

namespace Chip8

abbrev memorySize : Nat := 0x1000

def screenBytes : Nat := 0x100

def fontStart : Nat := 0x100

def glyphSize : Nat := 5

def programStart : Nat := 0x200

def programCapacity : Nat := memorySize - programStart

def lastInstruction : Nat := memorySize - 2

def screenWidth : Nat := 64

def screenHeight : Nat := 32

def rowBytes : Nat := screenWidth / 8

def maxSpriteHeight : Nat := 15

abbrev Register := Fin 16

abbrev Address := Fin 4096

/-- Arithmetic and drawing report carries, borrows and collisions in the last register. -/
def flagRegister : Register := ⟨15, by decide⟩

end Chip8
