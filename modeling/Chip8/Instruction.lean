import Chip8.Alu
import Chip8.Layout
import Chip8.Word

/-!
The instruction set, each instruction with the operands it uses. `decode` reads a word: every word
is exactly one instruction, and words outside the set are `unknown`.
-/

namespace Chip8

inductive Instruction where
  | unknown
  | clearScreen
  | ret
  | jump (target : Address)
  | call (target : Address)
  | skipIfByte (x : Register) (value : UInt8)
  | skipUnlessByte (x : Register) (value : UInt8)
  | skipIfEqual (x y : Register)
  | skipUnlessEqual (x y : Register)
  | setByte (x : Register) (value : UInt8)
  | addByte (x : Register) (value : UInt8)
  | alu (operation : Alu.Operation) (x y : Register)
  | setIndex (target : Address)
  | jumpOffset (target : Address)
  | random (x : Register) (mask : UInt8)
  | draw (x y : Register) (height : Fin 16)
  | skipIfKey (x : Register)
  | skipUnlessKey (x : Register)
  | readDelay (x : Register)
  | awaitKey (x : Register)
  | setDelay (x : Register)
  | setSound (x : Register)
  | addIndex (x : Register)
  | pointAtGlyph (x : Register)
  | storeDecimal (x : Register)
  | storeRegisters (x : Register)
  | loadRegisters (x : Register)
  deriving DecidableEq, Repr

namespace Instruction

def aluOperation? (digit : Nat) : Option Alu.Operation :=
  match digit with
  | 0x0 => some .copy
  | 0x1 => some .or
  | 0x2 => some .and
  | 0x3 => some .xor
  | 0x4 => some .add
  | 0x5 => some .sub
  | 0x6 => some .shiftRight
  | 0x7 => some .subFrom
  | 0xE => some .shiftLeft
  | _ => none

def decodeDevice (x : Register) (selector : Nat) : Instruction :=
  match selector with
  | 0x07 => .readDelay x
  | 0x0A => .awaitKey x
  | 0x15 => .setDelay x
  | 0x18 => .setSound x
  | 0x1E => .addIndex x
  | 0x29 => .pointAtGlyph x
  | 0x33 => .storeDecimal x
  | 0x55 => .storeRegisters x
  | 0x65 => .loadRegisters x
  | _ => .unknown

def decode (word : UInt16) : Instruction :=
  let x := Word.x word
  let y := Word.y word
  let n := Word.n word
  let byte := Word.byte word
  let address := Word.address word
  match (Word.opcode word).val with
  | 0x0 =>
    match address.val with
    | 0x0E0 => .clearScreen
    | 0x0EE => .ret
    | _ => .unknown
  | 0x1 => .jump address
  | 0x2 => .call address
  | 0x3 => .skipIfByte x byte
  | 0x4 => .skipUnlessByte x byte
  | 0x5 => if n.val = 0 then .skipIfEqual x y else .unknown
  | 0x6 => .setByte x byte
  | 0x7 => .addByte x byte
  | 0x8 =>
    match aluOperation? n.val with
    | some operation => .alu operation x y
    | none => .unknown
  | 0x9 => if n.val = 0 then .skipUnlessEqual x y else .unknown
  | 0xA => .setIndex address
  | 0xB => .jumpOffset address
  | 0xC => .random x byte
  | 0xD => .draw x y n
  | 0xE =>
    match byte.toNat with
    | 0x9E => .skipIfKey x
    | 0xA1 => .skipUnlessKey x
    | _ => .unknown
  | _ => decodeDevice x byte.toNat

def catalogued : Instruction → Nat × String
  | unknown => (0, "UNKNOWN")
  | clearScreen => (1, "CLS")
  | ret => (2, "RET")
  | jump _ => (3, "JP")
  | call _ => (4, "CALL")
  | skipIfByte _ _ => (5, "SE_IMM")
  | skipUnlessByte _ _ => (6, "SNE_IMM")
  | skipIfEqual _ _ => (7, "SE_REG")
  | setByte _ _ => (8, "LD_IMM")
  | addByte _ _ => (9, "ADD_IMM")
  | alu .copy _ _ => (10, "LD_REG")
  | alu .or _ _ => (11, "OR")
  | alu .and _ _ => (12, "AND")
  | alu .xor _ _ => (13, "XOR")
  | alu .add _ _ => (14, "ADD_REG")
  | alu .sub _ _ => (15, "SUB")
  | alu .shiftRight _ _ => (16, "SHR")
  | alu .subFrom _ _ => (17, "SUBN")
  | alu .shiftLeft _ _ => (18, "SHL")
  | skipUnlessEqual _ _ => (19, "SNE_REG")
  | setIndex _ => (20, "LD_I")
  | jumpOffset _ => (21, "JP_V0")
  | random _ _ => (22, "RND")
  | draw _ _ _ => (23, "DRW")
  | skipIfKey _ => (24, "SKP")
  | skipUnlessKey _ => (25, "SKNP")
  | readDelay _ => (26, "LD_VX_DT")
  | awaitKey _ => (27, "LD_VX_K")
  | setDelay _ => (28, "LD_DT")
  | setSound _ => (29, "LD_ST")
  | addIndex _ => (30, "ADD_I")
  | pointAtGlyph _ => (31, "LD_F")
  | storeDecimal _ => (32, "LD_B")
  | storeRegisters _ => (33, "LD_MEM_V")
  | loadRegisters _ => (34, "LD_V_MEM")

def number (instruction : Instruction) : Nat := instruction.catalogued.1

def mnemonic (instruction : Instruction) : String := instruction.catalogued.2

end Instruction

end Chip8
