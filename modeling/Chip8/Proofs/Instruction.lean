import Chip8.Instruction

/-!
Words and the instructions they encode. A word is put together from its four digits, and `decode`
gives a key wait for exactly the words 0xFX0A.
-/

namespace Chip8

namespace Word

variable (word : UInt16)

theorem toNat_eq_digits :
    word.toNat =
      4096 * (opcode word).val + 256 * (x word).val + 16 * (y word).val + (n word).val := by
  have bound := word.toNat_lt
  simp only [opcode, x, y, n, digit]
  omega

theorem byte_toNat : (byte word).toNat = 16 * (y word).val + (n word).val := by
  simp only [byte, y, n, digit, UInt16.toNat_toUInt8]
  omega

end Word

namespace Instruction

variable {word : UInt16}

theorem decode_of_opcode_eq_15 (device : (Word.opcode word).val = 15) :
    decode word = decodeDevice (Word.x word) (Word.byte word).toNat := by
  simp only [decode, device]

theorem decodeDevice_eq_awaitKey_iff {register x : Register} {selector : Nat} :
    decodeDevice register selector = .awaitKey x ↔ selector = 0x0A ∧ register = x := by
  unfold decodeDevice
  split <;> simp_all

theorem decode_ne_awaitKey {x : Register} (other : (Word.opcode word).val ≠ 15) :
    decode word ≠ .awaitKey x := by
  have bound := (Word.opcode word).isLt
  intro waits
  unfold decode at waits
  split at waits <;> grind

theorem decode_eq_awaitKey_iff {x : Register} :
    decode word = .awaitKey x ↔ word.toNat = 0xF00A + 256 * x.val := by
  have digits := Word.toNat_eq_digits word
  have low := Word.byte_toNat word
  constructor
  · intro waits
    have device : (Word.opcode word).val = 15 :=
      Decidable.byContradiction fun other => decode_ne_awaitKey other waits
    rw [decode_of_opcode_eq_15 device, decodeDevice_eq_awaitKey_iff] at waits
    obtain ⟨selector, rfl⟩ := waits
    omega
  · intro value
    have device : (Word.opcode word).val = 15 := by omega
    have selector : (Word.byte word).toNat = 0x0A := by omega
    have register : Word.x word = x := by
      apply Fin.ext
      omega
    rw [decode_of_opcode_eq_15 device, decodeDevice_eq_awaitKey_iff]
    exact ⟨selector, register⟩

end Instruction

end Chip8
