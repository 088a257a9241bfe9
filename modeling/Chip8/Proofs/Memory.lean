import Chip8.Machine.Host

/-!
Spans of memory, as a host reads and writes them at any whole number. The two bounds of a span are cut
to the memory one by one, so a span may be shorter than the bytes that are meant for it, and it is empty
where its bounds change places. A write stores all of its bytes or none, and what it stored reads back
(`write_whole_or_nothing`).
-/

namespace Chip8

namespace Memory

variable {memory : Memory} {address : Int} {bytes : List UInt8}

/-- A bound of a span: a negative one counts from the end, and both ends of memory are limits. -/
def cut (position : Int) : Int :=
  max 0 (min (if position < 0 then position + 4096 else position) 4096)

def spanLength (address : Int) (count : Nat) : Int := max (cut (address + count) - cut address) 0

theorem bound_eq_cut (position : Int) : bound position = cut position := by
  unfold bound cut Table.fromEnd
  split <;> omega

theorem bound_natCast {position : Nat} (inside : position ≤ 4096) : bound position = position := by
  rw [bound, Table.fromEnd_of_nonneg (Int.natCast_nonneg position), Int.toNat_natCast]
  exact Nat.min_eq_left inside

theorem room_eq_spanLength (address : Int) (count : Nat) :
    (bound (address + count) - bound address : Nat) = spanLength address count := by
  rw [spanLength, ← bound_eq_cut, ← bound_eq_cut]
  omega

/-- A span never takes more than it was meant for, also where only its end counts from the start. -/
theorem spanLength_le (address : Int) (count : Nat) : spanLength address count ≤ count := by
  unfold spanLength cut
  split <;> split <;> omega

theorem spanLength_of_inside {count : Nat} (low : 0 ≤ address) (high : address + count ≤ 4096) :
    cut address = address ∧ spanLength address count = count := by
  have start : cut address = address := by
    unfold cut
    omega
  have stop : cut (address + count) = address + count := by
    unfold cut
    omega
  refine ⟨start, ?_⟩
  rw [spanLength, start, stop]
  omega

theorem bound_add_of_whole (whole : spanLength address bytes.length = bytes.length) :
    bound address + bytes.length ≤ 4096 := by
  have room := room_eq_spanLength address bytes.length
  have start := bound_le address
  have stop := bound_le (address + bytes.length)
  omega

theorem write?_of_empty (empty : spanLength address bytes.length = 0) :
    memory.write? address bytes = some memory := by
  have room := room_eq_spanLength address bytes.length
  exact if_pos (by omega)

theorem write?_of_short (some_room : 0 < spanLength address bytes.length)
    (short : spanLength address bytes.length < bytes.length) :
    memory.write? address bytes = none := by
  have room := room_eq_spanLength address bytes.length
  exact (if_neg (by omega)).trans (if_pos (by omega))

theorem write?_of_whole (whole : spanLength address bytes.length = bytes.length) :
    memory.write? address bytes = some (Table.store memory (bound address) bytes) := by
  have room := room_eq_spanLength address bytes.length
  cases bytes with
  | nil => exact write?_of_empty whole
  | cons byte rest =>
    have some_room : 0 < (byte :: rest).length := Nat.zero_lt_succ _
    exact (if_neg (by omega)).trans (if_neg (by omega))

theorem read_of_whole (whole : spanLength address bytes.length = bytes.length)
    (stands : ∀ (i : Nat) (small : i < bytes.length),
      memory.get ⟨bound address + i, by have := bound_add_of_whole whole; omega⟩ = bytes[i]) :
    memory.read address bytes.length = bytes := by
  have room := room_eq_spanLength address bytes.length
  have fits := bound_add_of_whole whole
  apply List.ext_getElem
  · simp only [read, List.length_take, List.length_drop, Vector.length_toList]
    omega
  · intro i _ small
    simp only [read, List.getElem_take, List.getElem_drop, Vector.getElem_toList]
    exact stands i small

theorem read_eq {address length : Nat} (whole : bytes.length = length)
    (inside : address + bytes.length ≤ 4096)
    (stands : ∀ (i : Nat) (small : i < bytes.length),
      memory.get ⟨address + i, by omega⟩ = bytes[i]) :
    memory.read address length = bytes := by
  subst whole
  have high : (address : Int) + bytes.length ≤ 4096 := by omega
  obtain ⟨-, span⟩ := spanLength_of_inside (Int.natCast_nonneg address) high
  apply read_of_whole span
  intro i small
  simp only [bound_natCast (Nat.le_of_add_right_le inside)]
  exact stands i small

end Memory

namespace Machine

open Memory

structure Overwritten (before : Machine) (start : Int) (bytes : List UInt8) (after : Machine) :
    Prop where
  inside : 0 ≤ start ∧ start + bytes.length ≤ 4096
  memory : ∀ (i : Nat) (small : i < 4096), after.memory[i] =
    if written : start ≤ i ∧ i < start + bytes.length then
      bytes.get ⟨(i - start).toNat, by omega⟩
    else before.memory[i]
  others : after = { before with memory := after.memory }

variable {machine written : Machine} {address : Int} {bytes : List UInt8}

theorem overwritten_store (machine : Machine)
    (whole : spanLength address bytes.length = bytes.length) :
    machine.Overwritten (cut address) bytes
      { machine with memory := Table.store machine.memory (bound address) bytes } := by
  have fits := bound_add_of_whole whole
  rw [← bound_eq_cut]
  refine ⟨by omega, fun i small => ?_, rfl⟩
  rw [Table.getElem_store]
  by_cases covered : bound address ≤ i ∧ i < bound address + bytes.length
  · rw [dif_pos covered, dif_pos (by omega)]
    congr 2
    omega
  · rw [dif_neg covered, dif_neg (by omega)]

theorem Overwritten.read (replaced : machine.Overwritten (cut address) bytes written)
    (whole : spanLength address bytes.length = bytes.length) :
    written.readMemory address bytes.length = bytes := by
  have start := bound_eq_cut address
  apply read_of_whole whole
  intro i small
  refine (replaced.memory (bound address + i) (by have := replaced.inside; omega)).trans ?_
  rw [dif_pos (by omega)]
  simp only [List.get_eq_getElem]
  congr 1
  omega

/-- A host writes all of its bytes or none, at any address. Its span never takes more bytes than there
are. One that is empty changes nothing, one that takes only some of them is refused, and one that takes
all of them holds them afterwards, so that they read back. Inside the memory the span always takes
all. -/
theorem write_whole_or_nothing (machine : Machine) (address : Int) (bytes : List UInt8) :
    let start := cut address
    let stop := cut (address + bytes.length)
    let length := max (stop - start) 0
    length ≤ bytes.length ∧
    (length = 0 → machine.writeMemory address bytes = .ok machine) ∧
    (0 < length → length < bytes.length →
      machine.writeMemory address bytes = .error (.spanTooShort address bytes.length)) ∧
    (length = bytes.length → ∃ written, machine.writeMemory address bytes = .ok written ∧
      machine.Overwritten start bytes written ∧
      written.readMemory address bytes.length = bytes) ∧
    (0 ≤ address → address + bytes.length ≤ 4096 →
      ∃ written, machine.writeMemory address bytes = .ok written ∧
        machine.Overwritten address bytes written) := by
  intro start stop length
  refine ⟨spanLength_le address bytes.length, ?_, ?_, ?_, ?_⟩
  · intro empty
    rw [writeMemory, write?_of_empty empty]
  · intro some_room short
    rw [writeMemory, write?_of_short some_room short]
  · intro whole
    have replaced := overwritten_store machine whole
    refine ⟨_, ?_, replaced, replaced.read whole⟩
    rw [writeMemory, write?_of_whole whole]
  · intro low high
    obtain ⟨here, whole⟩ := spanLength_of_inside low high
    have replaced := overwritten_store machine whole
    rw [here] at replaced
    refine ⟨_, ?_, replaced⟩
    rw [writeMemory, write?_of_whole whole]

/-- Counted from the end, the last byte takes no write: its span ends at zero, before it starts. -/
example (machine : Machine) : machine.writeMemory (-1) [7] = .ok machine := rfl

end Machine

end Chip8
