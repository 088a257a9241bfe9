import Chip8.Proofs.Machine.Reserved

/-!
Bulk transfers. FX55 stores the registers up to VX to memory from I on, and FX65 loads them from
there. Within the program region each undoes the other: registers that were stored come back from any
memory that still holds their bytes, and bytes that were loaded are stored where they stood. I stays
at the first byte, or moves past the last one, as the variant has it.
-/

namespace Chip8.Machine

open Word

variable {machine : Machine} {word : UInt16}

theorem advanceIndex_toNat (machine : Machine) (last : Register)
    (room : machine.index.toNat + last.val + 1 ≤ 0x1000) :
    (machine.advanceIndex last).index.toNat =
      if machine.variant.advanceIndex then machine.index.toNat + last.val + 1
      else machine.index.toNat := by
  unfold advanceIndex
  split
  · rw [UInt16.toNat_add, UInt16.toNat_ofNat']
    omega
  · rfl

theorem storeRegisters_eq_with (machine : Machine) (last : Register) :
    machine.storeRegisters last =
      { machine with
        memory := (machine.storeRegisters last).memory
        index := (machine.advanceIndex last).index } := by
  unfold storeRegisters advanceIndex storeAtIndex
  split <;> rfl

theorem loadRegisters_eq_with (machine : Machine) (last : Register) :
    machine.loadRegisters last =
      { machine with
        registers := (machine.loadRegisters last).registers
        index := (machine.advanceIndex last).index } := by
  simp only [loadRegisters, advanceIndex]
  split <;> rfl

theorem get_loadRegisters (machine : Machine) (last r : Register) :
    (machine.loadRegisters last).registers.get r =
      if r ≤ last then Table.readOr machine.memory (machine.index.toNat + r.val) 0
      else machine.registers.get r := by
  have loaded : (machine.loadRegisters last).registers = Vector.ofFn fun i : Fin 16 =>
      if i ≤ last then Table.readOr machine.memory (machine.index.toNat + i.val) 0
      else machine.registers.get i := by
    simp only [loadRegisters, advanceIndex]
    split <;> rfl
  rw [loaded]
  exact Vector.getElem_ofFn r.isLt

theorem guardSpan_of_inside {length : Nat} (short : length ≤ 0x10000)
    (inside : ¬ machine.SpanOutside length) (action : Machine → Machine) :
    machine.guardSpan length action = (action machine, .ok) := by
  rw [guardSpan, if_pos (spanWritable_of_inside short inside)]

theorem not_spanOutside {length : Nat} (low : 0x200 ≤ machine.index.toNat)
    (high : machine.index.toNat + length ≤ 0x1000) : ¬ machine.SpanOutside length := by
  rw [SpanOutside]
  omega

theorem execute_of_store (form : Matches "FX55" word)
    (inside : ¬ machine.SpanOutside ((x word).val + 1)) :
    machine.execute word = (machine.storeRegisters (x word)).reported .ok machine.fault := by
  rw [execute_eq, Instruction.decode_of_encodes (.storeRegisters form), perform,
    guardSpan_of_inside (by omega) inside]
  rfl

theorem execute_of_load (form : Matches "FX65" word)
    (inside : ¬ machine.SpanOutside ((x word).val + 1)) :
    machine.execute word = (machine.loadRegisters (x word)).reported .ok machine.fault := by
  rw [execute_eq, Instruction.decode_of_encodes (.loadRegisters form), perform,
    guardSpan_of_inside (by omega) inside]
  rfl

/-- What FX55 does within the program region. -/
structure Stores (before : Machine) (last : Register) (after : Machine) : Prop where
  memory : ∀ (i : Nat) (small : i < 4096), after.memory[i] =
    if within : before.index.toNat ≤ i ∧ i ≤ before.index.toNat + last.val then
      before.registers.get ⟨i - before.index.toNat, by omega⟩
    else before.memory[i]
  index : after.index.toNat =
    if before.variant.advanceIndex then before.index.toNat + last.val + 1 else before.index.toNat
  others : after = { before with memory := after.memory, index := after.index, status := .ok }

/-- What FX65 does within the program region. -/
structure Loads (before : Machine) (last : Register) (after : Machine) : Prop where
  loaded : ∀ r ≤ last, ∀ small : before.index.toNat + r.val < 4096,
    after.registers.get r = before.memory[before.index.toNat + r.val]
  kept : ∀ r, last < r → after.registers.get r = before.registers.get r
  index : after.index.toNat =
    if before.variant.advanceIndex then before.index.toNat + last.val + 1 else before.index.toNat
  others : after = { before with registers := after.registers, index := after.index, status := .ok }

theorem stores_execute (form : Matches "FX55" word) (low : 0x200 ≤ machine.index.toNat)
    (high : machine.index.toNat + (x word).val + 1 ≤ 0x1000) :
    machine.Stores (x word) (machine.execute word) := by
  have inside : ¬ machine.SpanOutside ((x word).val + 1) := not_spanOutside low high
  constructor
  · exact (writes_execute machine word).registers form inside
  · rw [execute_of_store form inside, storeRegisters_eq_with]
    exact advanceIndex_toNat machine (x word) high
  · rw [execute_of_store form inside, storeRegisters_eq_with]
    rfl

theorem loads_execute (form : Matches "FX65" word) (low : 0x200 ≤ machine.index.toNat)
    (high : machine.index.toNat + (x word).val + 1 ≤ 0x1000) :
    machine.Loads (x word) (machine.execute word) := by
  have inside : ¬ machine.SpanOutside ((x word).val + 1) := not_spanOutside low high
  constructor
  · intro r low small
    rw [execute_of_load form inside, reported_registers, get_loadRegisters, if_pos low]
    exact Table.readOr_of_lt machine.memory 0 small
  · intro r above
    rw [execute_of_load form inside, reported_registers, get_loadRegisters,
      if_neg (Fin.not_le.mpr above)]
  · rw [execute_of_load form inside, loadRegisters_eq_with]
    exact advanceIndex_toNat machine (x word) high
  · rw [execute_of_load form inside, loadRegisters_eq_with]
    rfl

section RoundTrip

variable {last : Register} {stored other loaded : Machine}

/-- Registers come back from any memory that holds the bytes which they were stored as. -/
theorem Stores.get_of_loads (stores : machine.Stores last stored) (loads : other.Loads last loaded)
    (same : other.index = machine.index) (room : machine.index.toNat + last.val < 4096)
    (agrees : ∀ (i : Nat) (small : i < 4096), machine.index.toNat ≤ i →
      i ≤ machine.index.toNat + last.val → other.memory[i] = stored.memory[i])
    {r : Register} (low : r ≤ last) : loaded.registers.get r = machine.registers.get r := by
  have below : r.val ≤ last.val := low
  have small : machine.index.toNat + r.val < 4096 := by omega
  have within : machine.index.toNat ≤ machine.index.toNat + r.val ∧
      machine.index.toNat + r.val ≤ machine.index.toNat + last.val := by omega
  have read := loads.loaded r low
  rw [same] at read
  calc
    loaded.registers.get r = other.memory[machine.index.toNat + r.val] := read small
    _ = stored.memory[machine.index.toNat + r.val] := agrees _ small within.1 within.2
    _ = machine.registers.get r := by
      rw [stores.memory _ small, dif_pos within]
      simp only [Nat.add_sub_cancel_left]

/-- Bytes that were loaded are stored where they stand. -/
theorem Loads.memory_of_stores (loads : machine.Loads last loaded)
    (stores : ({ loaded with index := machine.index } : Machine).Stores last stored) :
    stored.memory = machine.memory := by
  have memory : loaded.memory = machine.memory := by rw [loads.others]
  apply Vector.ext
  intro i small
  rw [stores.memory i small]
  split
  · rename_i within
    dsimp only at within
    have place : machine.index.toNat + (i - machine.index.toNat) = i := by omega
    have here : machine.index.toNat + (i - machine.index.toNat) < 4096 := by omega
    have low : (⟨i - machine.index.toNat, by omega⟩ : Register) ≤ last := by
      rw [Fin.le_def]
      dsimp only
      omega
    calc
      loaded.registers.get ⟨i - machine.index.toNat, by omega⟩ =
          machine.memory[machine.index.toNat + (i - machine.index.toNat)] :=
        loads.loaded _ low here
      _ = machine.memory[i] := by simp only [place]
  · simp only [memory]

end RoundTrip

theorem setIndex_toNat (machine : Machine) (index : UInt16) :
    machine.setIndex index.toNat = { machine with index } := by
  have same : UInt16.ofInt index.toNat = index := by
    rw [← UInt16.toNat_inj, UInt16.ofInt, UInt16.toNat_ofNat']
    have bound := index.toNat_lt
    omega
  rw [setIndex, same]

/-- Storing registers and loading them are inverse within the program region. FX65 gives back what
FX55 stored, from any memory that still holds it, and FX55 puts back what FX65 loaded. Each leaves I
where the variant has it, and nothing else changes. -/
theorem registers_survive_memory {store load : UInt16} (machine : Machine)
    (stores : Matches "FX55" store) (loads : Matches "FX65" load) (same : x load = x store)
    (low : 0x200 ≤ machine.index.toNat)
    (high : machine.index.toNat + (x store).val + 1 ≤ 0x1000) :
    let stored := machine.execute store
    let loaded := machine.execute load
    (∀ other : Machine, other.index = machine.index →
      (∀ (i : Nat) (small : i < 4096), machine.index.toNat ≤ i →
        i ≤ machine.index.toNat + (x store).val → other.memory[i] = stored.memory[i]) →
      (∀ r, (other.execute load).registers.get r =
        if r ≤ x store then machine.registers.get r else other.registers.get r) ∧
      (other.execute load).memory = other.memory) ∧
    ((loaded.setIndex machine.index.toNat).execute store).memory = machine.memory ∧
    machine.Stores (x store) stored ∧ stored.index.toNat ≤ 0x1000 ∧
    machine.Loads (x store) loaded ∧ loaded.index.toNat ≤ 0x1000 := by
  intro stored loaded
  have storing : machine.Stores (x store) stored := stores_execute stores low high
  have loading : machine.Loads (x store) loaded := same ▸ loads_execute loads low (same ▸ high)
  refine ⟨?_, ?_, storing, ?_, loading, ?_⟩
  · intro other index agrees
    have back : other.Loads (x store) (other.execute load) :=
      same ▸ loads_execute loads (index ▸ low) (same ▸ index ▸ high)
    refine ⟨?_, by rw [back.others]⟩
    intro r
    split
    · rename_i below
      exact storing.get_of_loads back index (by omega) agrees below
    · rename_i above
      exact back.kept r (Fin.not_le.mp above)
  · rw [setIndex_toNat]
    exact loading.memory_of_stores (stores_execute stores low high)
  · rw [storing.index]
    split <;> omega
  · rw [loading.index]
    split <;> omega

theorem registers_survive_memory_lastBytes :
    let machine : Machine :=
      { create ⟨0, 0⟩ { advanceIndex := true } with
        registers := Vector.ofFn fun r => UInt8.ofNat (10 * r.val), index := 0xFF0 }
    let stored := machine.execute 0xFF55
    let other : Machine := { create ⟨0, 0⟩ {} with memory := stored.memory, index := 0xFF0 }
    (Matches "FX55" 0xFF55 ∧ Matches "FX65" 0xFF65 ∧ x 0xFF65 = x 0xFF55 ∧
      0x200 ≤ machine.index.toNat ∧ machine.index.toNat + (x 0xFF55).val + 1 ≤ 0x1000) ∧
    (∀ r, (other.execute 0xFF65).registers.get r = machine.registers.get r) ∧
    (((machine.execute 0xFF65).setIndex 0xFF0).execute 0xFF55).memory = machine.memory ∧
    stored.index.toNat = 0x1000 := by
  intro machine stored other
  have forms : Matches "FX55" 0xFF55 ∧ Matches "FX65" 0xFF65 ∧ x 0xFF65 = x 0xFF55 ∧
      0x200 ≤ machine.index.toNat ∧ machine.index.toNat + (x 0xFF55).val + 1 ≤ 0x1000 := by decide
  obtain ⟨stores, loads, same, low, high⟩ := forms
  obtain ⟨back, again, storing, -⟩ :=
    registers_survive_memory machine stores loads same low high
  refine ⟨⟨stores, loads, same, low, high⟩, ?_, again, storing.index⟩
  intro r
  have last : (x 0xFF55).val = 15 := by decide
  have below : r ≤ x 0xFF55 := by
    rw [Fin.le_def, last]
    omega
  have agrees (i : Nat) (small : i < 4096) : other.memory[i] = stored.memory[i] := by
    simp only [other]
  rw [(back other rfl fun i small _ _ => agrees i small).1 r, if_pos below]

end Chip8.Machine
