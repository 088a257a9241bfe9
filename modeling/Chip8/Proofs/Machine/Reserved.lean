import Chip8.Proofs.Machine.Draw
import Chip8.Proofs.Machine.Frame
import Chip8.Proofs.Machine.History
import Chip8.Proofs.Machine.Raises
import Chip8.Proofs.Memory

/-!
Where instructions write. Two of them write to the screen, and two store into the program region,
once their span was checked; no other instruction writes to memory. So the bytes between the screen
and the program region stay as they were at power-on (`Intact`), and the glyphs are always in
place. `memory_protected` is the result.
-/

namespace Chip8

def glyph (digit : Nat) : List UInt8 := (font.drop (digit * glyphSize)).take glyphSize

theorem glyph_length {digit : Nat} (small : digit < 16) : (glyph digit).length = glyphSize := by
  rw [glyph, List.length_take, List.length_drop, font_length, glyphSize]
  omega

theorem Screen.getElem_clear (memory : Memory) (i : Nat) (small : i < 4096) :
    (clear memory)[i] = if i < screenBytes then 0 else memory[i] := by
  rw [clear, Table.getElem_store]
  simp

namespace Machine

open Word

variable {machine : Machine} {word : UInt16}

def Intact (machine : Machine) : Prop :=
  ∀ (i : Nat) (small : i < 4096), screenBytes ≤ i → i < programStart →
    machine.memory[i] = Memory.initial[i]

theorem Intact.get_glyphs (intact : machine.Intact) {i : Nat} (small : i < font.length) :
    machine.memory.get ⟨0x100 + i, Nat.lt_trans (Nat.add_lt_add_left small _) (by decide)⟩ =
      font[i] := by
  have few : i < 80 := small
  have written : fontStart ≤ 0x100 + i ∧ 0x100 + i < fontStart + font.length := by
    rw [fontStart]
    omega
  have stands := intact (0x100 + i) (by omega) (by rw [screenBytes]; omega)
    (by rw [programStart]; omega)
  rw [Memory.initial, Table.getElem_store, dif_pos written] at stands
  simp only [fontStart, List.get_eq_getElem, Nat.add_sub_cancel_left] at stands
  exact stands

theorem Intact.get_behind (intact : machine.Intact) {i : Nat} (low : 0x150 ≤ i) (high : i < 0x200) :
    machine.memory.get ⟨i, by omega⟩ = 0 := by
  have outside : ¬ (fontStart ≤ i ∧ i < fontStart + font.length) := by
    rw [font_length, fontStart, glyphSize]
    omega
  have stands := intact i (by omega) (by rw [screenBytes]; omega) high
  rw [Memory.initial, Table.getElem_store, dif_neg outside, Vector.getElem_replicate] at stands
  exact stands

theorem Intact.read_font (intact : machine.Intact) : machine.readMemory 0x100 0x50 = font :=
  Memory.read_eq font_length (by decide) fun _ small => intact.get_glyphs small

theorem Intact.read_behind (intact : machine.Intact) :
    machine.readMemory 0x150 0xB0 = List.replicate 0xB0 0 := by
  have length : (List.replicate 0xB0 (0 : UInt8)).length = 0xB0 := List.length_replicate
  have zeros : machine.memory.read (0x150 : Nat) (0xB0 : Nat) = List.replicate 0xB0 0 := by
    apply Memory.read_eq length
    · intro i small
      rw [length] at small
      rw [List.getElem_replicate]
      exact intact.get_behind (by omega) (by omega)
    · omega
  exact zeros

theorem Intact.read_glyph (intact : machine.Intact) {digit : Nat} (small : digit < 16) :
    machine.readMemory (0x100 + digit * 5 : Nat) 5 = glyph digit := by
  have length : (glyph digit).length = 5 := glyph_length small
  apply Memory.read_eq length
  · intro row low
    have within : digit * 5 + row < font.length := by
      rw [font_length, glyphSize]
      omega
    simp only [glyph, List.getElem_take, List.getElem_drop, Nat.add_assoc]
    exact intact.get_glyphs within
  · omega

theorem decimalDigits_value (value : UInt8) :
    ∃ hundreds tens ones : UInt8, decimalDigits value = [hundreds, tens, ones] ∧
      hundreds ≤ 9 ∧ tens ≤ 9 ∧ ones ≤ 9 ∧
      100 * hundreds.toNat + 10 * tens.toNat + ones.toNat = value.toNat := by
  have bound := value.toNat_lt
  refine ⟨value / 100, value / 10 % 10, value % 10, rfl, ?_⟩
  simp only [UInt8.le_iff_toNat_le, UInt8.toNat_div, UInt8.toNat_mod, UInt8.reduceToNat]
  omega

theorem getElem_storeAtIndex_of_lt (bytes : List UInt8) {i : Nat} (small : i < 4096)
    (before : i < machine.index.toNat) :
    (machine.storeAtIndex bytes).memory[i] = machine.memory[i] := by
  rw [storeAtIndex, Table.getElem_store, dif_neg (by omega)]

theorem advanceIndex_memory (machine : Machine) (x : Register) :
    (machine.advanceIndex x).memory = machine.memory := by
  unfold advanceIndex
  split <;> rfl

theorem storeRegisters_memory (machine : Machine) (x : Register) :
    (machine.storeRegisters x).memory =
      Table.store machine.memory machine.index.toNat (machine.registers.toList.take (x + 1)) :=
  advanceIndex_memory _ x

/-- An action on a checked span writes nowhere below the program region, if it writes nowhere below
I. -/
theorem getElem_guardSpan_of_lt {length : Nat} {action : Machine → Machine} {i : Nat}
    (small : i < 4096) (reserved : i < programStart)
    (keeps : i < machine.index.toNat → (action machine).memory[i] = machine.memory[i]) :
    (machine.guardSpan length action).1.memory[i] = machine.memory[i] := by
  unfold guardSpan
  split
  · rename_i writable
    simp only [spanWritable, decide_eq_true_eq] at writable
    exact keeps (Nat.lt_of_lt_of_le reserved writable.1)
  · rfl

/-- No instruction writes between the screen and the program region. -/
theorem perform_getElem_reserved (machine : Machine) (instruction : Instruction) {i : Nat}
    (small : i < 4096) (low : screenBytes ≤ i) (high : i < programStart) :
    (machine.perform instruction).1.memory[i] = machine.memory[i] := by
  by_cases writes : .memory ∈ instruction.parts
  · cases instruction with
    | clearScreen =>
      rw [perform, Screen.getElem_clear, if_neg (Nat.not_lt_of_le low)]
    | draw x y height => exact drawSprite_behind machine _ _ _ small low
    | storeDecimal x =>
      apply getElem_guardSpan_of_lt small high
      exact getElem_storeAtIndex_of_lt _ small
    | storeRegisters x =>
      apply getElem_guardSpan_of_lt small high
      intro before
      rw [storeRegisters_memory]
      exact getElem_storeAtIndex_of_lt _ small before
    | _ => simp at writes
  · rw [(perform_frame machine instruction).memory writes]

theorem Intact.perform (intact : machine.Intact) (instruction : Instruction) :
    (machine.perform instruction).1.Intact := by
  intro i small low high
  rw [perform_getElem_reserved machine instruction small low high]
  exact intact i small low high

theorem Intact.execute (intact : machine.Intact) (word : UInt16) : (machine.execute word).Intact := by
  rw [execute_eq]
  exact intact.perform _

theorem Intact.step (intact : machine.Intact) : machine.step.Intact := by
  rcases step_cases machine with ⟨-, key, -, received⟩ | ⟨-, -, waits⟩ |
    ⟨instruction, -, -, performed⟩ | ⟨instruction, -, -, failure⟩ | ⟨-, -, stands⟩
  · rw [received]
    exact intact
  · rw [waits]
    exact intact
  · have fetched : machine.fetch.2.Intact := intact
    rw [performed]
    exact fetched.perform instruction
  · rw [failure]
    exact intact
  · rw [stands]
    exact intact

theorem Intact.run (intact : machine.Intact) (cycles : Int) : (machine.run cycles).1.Intact := by
  apply run_of_kept _ _ intact
  · intro machine intact
    exact intact.step
  · intro machine status fault _ intact
    exact intact

theorem Intact.copyImage (intact : machine.Intact) (image : List UInt8) :
    (machine.copyImage image).Intact := by
  intro i small low high
  rw [Machine.copyImage, Table.getElem_store, dif_neg (by omega)]
  exact intact i small low high

theorem intact_powerOn (rng : RandomKey) (keypad : Keypad) (variant : Variant) :
    (powerOn rng keypad variant).Intact :=
  fun _ _ _ _ => rfl

theorem Intact.serve (intact : machine.Intact) (request : Request) :
    (machine.serve request).Intact := by
  have fresh := intact_powerOn machine.rng machine.keypad machine.variant
  cases request with
  | load image =>
    by_cases fits : image.length ≤ programCapacity
    · rw [serve_load_of_le fits]
      exact fresh.copyImage image
    · rw [serve_load_of_lt (Nat.lt_of_not_le fits)]
      exact intact
  | reset => exact fresh
  | execute word => exact intact.execute word
  | step => exact intact.step
  | run cycles => exact intact.run cycles
  | press key => exact intact
  | release key => exact intact
  | tick => exact intact

theorem intact_after (rng : RandomKey) (variant : Variant) (history : List Request) :
    ((create rng variant).after history).Intact := by
  apply after_of_kept
  · intro machine request _ intact
    exact intact.serve request
  · exact intact_powerOn rng Keypad.released variant

theorem execute_memory (machine : Machine) (word : UInt16) :
    (machine.execute word).memory = (machine.perform (Instruction.decode word)).1.memory := by
  rw [execute_eq]
  rfl

theorem spanWritable_of_inside {length : Nat} (short : length ≤ 0x10000)
    (inside : ¬ machine.SpanOutside length) : machine.spanWritable length = true := by
  rwa [← spanWritable_eq_false_iff machine short, Bool.not_eq_false] at inside

theorem execute_storeDecimal (form : Matches "FX33" word) (inside : ¬ machine.SpanOutside 3) :
    (machine.execute word).memory =
      Table.store machine.memory machine.index.toNat
        (decimalDigits (machine.registers.get (x word))) := by
  have writable := spanWritable_of_inside (by decide) inside
  rw [execute_memory, Instruction.decode_of_encodes (.storeDecimal form), perform, guardSpan,
    if_pos writable]
  rfl

theorem execute_storeRegisters (form : Matches "FX55" word)
    (inside : ¬ machine.SpanOutside ((x word).val + 1)) :
    (machine.execute word).memory =
      Table.store machine.memory machine.index.toNat
        (machine.registers.toList.take ((x word).val + 1)) := by
  have writable := spanWritable_of_inside (by omega) inside
  rw [execute_memory, Instruction.decode_of_encodes (.storeRegisters form), perform, guardSpan,
    if_pos writable, storeRegisters_memory]

structure Writes (before : Machine) (word : UInt16) (after : Machine) : Prop where
  cleared : Matches "00E0" word → ∀ (i : Nat) (small : i < 4096),
    after.memory[i] = if i < 0x100 then 0 else before.memory[i]
  drawn : Matches "DXYN" word → ∀ (i : Nat) (small : i < 4096), 0x100 ≤ i →
    after.memory[i] = before.memory[i]
  decimal : Matches "FX33" word → ¬ before.SpanOutside 3 →
    ∃ hundreds tens ones : UInt8, hundreds ≤ 9 ∧ tens ≤ 9 ∧ ones ≤ 9 ∧
      100 * hundreds.toNat + 10 * tens.toNat + ones.toNat =
        (before.registers.get (x word)).toNat ∧
      ∀ (i : Nat) (small : i < 4096), after.memory[i] =
        if i = before.index.toNat then hundreds
        else if i = before.index.toNat + 1 then tens
        else if i = before.index.toNat + 2 then ones
        else before.memory[i]
  registers : Matches "FX55" word → ¬ before.SpanOutside ((x word).val + 1) →
    ∀ (i : Nat) (small : i < 4096), after.memory[i] =
      if within : before.index.toNat ≤ i ∧ i ≤ before.index.toNat + (x word).val then
        before.registers.get ⟨i - before.index.toNat, by omega⟩
      else before.memory[i]
  nothing : ¬ Matches "00E0" word → ¬ Matches "DXYN" word →
    ¬ (Matches "FX33" word ∧ ¬ before.SpanOutside 3) →
    ¬ (Matches "FX55" word ∧ ¬ before.SpanOutside ((x word).val + 1)) →
    after.memory = before.memory

theorem writes_nothing (machine : Machine) (uncleared : ¬ Matches "00E0" word)
    (undrawn : ¬ Matches "DXYN" word)
    (noDecimal : ¬ (Matches "FX33" word ∧ ¬ machine.SpanOutside 3))
    (noRegisters : ¬ (Matches "FX55" word ∧ ¬ machine.SpanOutside ((x word).val + 1))) :
    (machine.execute word).memory = machine.memory := by
  have three := spanWritable_eq_false_iff machine (show 3 ≤ 0x10000 by decide)
  have bulk := spanWritable_eq_false_iff machine (show (x word).val + 1 ≤ 0x10000 by omega)
  rw [execute_memory]
  by_cases writes : .memory ∈ (Instruction.decode word).parts
  · have listed : Instruction.decode word ≠ .unknown := by
      intro unknown
      simp [unknown] at writes
    have encodes := Instruction.encodes_decode listed
    generalize Instruction.decode word = instruction at encodes writes
    cases encodes with
    | clearScreen form => exact absurd form uncleared
    | draw form => exact absurd form undrawn
    | storeDecimal form =>
      cases writable : machine.spanWritable (3 : Nat) with
      | true => exact absurd ⟨form, by rw [← three, writable]; decide⟩ noDecimal
      | false => rw [perform, guardSpan, writable, if_neg Bool.false_ne_true]
    | storeRegisters form =>
      cases writable : machine.spanWritable ((x word).val + 1 : Nat) with
      | true => exact absurd ⟨form, by rw [← bulk, writable]; decide⟩ noRegisters
      | false => rw [perform, guardSpan, writable, if_neg Bool.false_ne_true]
    | _ => simp at writes
  · exact (perform_frame machine _).memory writes

theorem writes_execute (machine : Machine) (word : UInt16) :
    machine.Writes word (machine.execute word) := by
  constructor
  · intro form i small
    rw [execute_memory, Instruction.decode_of_encodes (.clearScreen form), perform,
      Screen.getElem_clear, screenBytes]
  · intro form i small behind
    rw [execute_of_draw form]
    exact drawSprite_behind machine _ _ _ small behind
  · intro form inside
    obtain ⟨hundreds, tens, ones, digits, hundreds_le, tens_le, ones_le, value⟩ :=
      decimalDigits_value (machine.registers.get (x word))
    refine ⟨hundreds, tens, ones, hundreds_le, tens_le, ones_le, value, ?_⟩
    intro i small
    rw [execute_storeDecimal form inside, digits, Table.getElem_store]
    simp only [List.length_cons, List.length_nil]
    split
    · rename_i within
      have place : i = machine.index.toNat ∨ i = machine.index.toNat + 1 ∨
          i = machine.index.toNat + 2 := by omega
      rcases place with rfl | rfl | rfl <;> simp
    · rename_i outside
      rw [if_neg (by omega), if_neg (by omega), if_neg (by omega)]
  · intro form inside i small
    have length : (machine.registers.toList.take ((x word).val + 1)).length =
        (x word).val + 1 := by
      rw [List.length_take, Vector.length_toList]
      omega
    rw [execute_storeRegisters form inside, Table.getElem_store]
    simp only [length, Nat.lt_succ_iff, ← Nat.add_assoc, List.get_eq_getElem, List.getElem_take,
      Vector.getElem_toList]
    rfl
  · exact writes_nothing machine

theorem Intact.read_pointed (intact : machine.Intact) (x : Register) :
    let pointed := (machine.perform (.pointAtGlyph x)).1
    pointed.readMemory pointed.index.toNat 5 = glyph ((machine.registers.get x).toNat % 16) := by
  intro pointed
  have small : (machine.registers.get x).toNat % 16 < 16 := Nat.mod_lt _ (by decide)
  have index : pointed.index.toNat = 0x100 + (machine.registers.get x).toNat % 16 * 5 :=
    Nat.mod_eq_of_lt (by rw [glyphAddress_eq]; omega)
  rw [index]
  exact intact.read_glyph small

/-- Each word writes to its own zone of the memory only. So however a host uses the machine, the
font stands in its place with zeros behind it, and FX29 points at the glyph of its digit. -/
theorem memory_protected :
    (∀ (machine : Machine) (word : UInt16), machine.Writes word (machine.execute word)) ∧
    (∀ (rng : RandomKey) (variant : Variant) (history : List Request),
      let machine := (create rng variant).after history
      machine.readMemory 0x100 0x50 = font ∧
      machine.readMemory 0x150 0xB0 = List.replicate 0xB0 0 ∧
      (∀ word, Matches "FX29" word →
        let pointed := machine.execute word
        pointed.readMemory pointed.index.toNat 5 =
          glyph ((machine.registers.get (x word)).toNat % 16)) ∧
      (∀ x, machine.fetched? = some (.pointAtGlyph x) →
        machine.step.readMemory machine.step.index.toNat 5 =
          glyph ((machine.registers.get x).toNat % 16))) := by
  refine ⟨writes_execute, ?_⟩
  intro rng variant history machine
  have intact : machine.Intact := intact_after rng variant history
  refine ⟨intact.read_font, intact.read_behind, ?_, ?_⟩
  · intro word form
    rw [execute_eq, Instruction.decode_of_encodes (.pointAtGlyph form)]
    exact intact.read_pointed (x word)
  · intro x fetched
    have advanced : machine.fetch.2.Intact := intact
    rw [step_of_sound fetched rfl]
    exact advanced.read_pointed x

end Machine

end Chip8
