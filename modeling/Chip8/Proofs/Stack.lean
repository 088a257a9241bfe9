import Chip8.Stack

/-!
The call stack between its bounds. On a well-formed stack `push` and `pop` use the slot that the
pointer names, so that popping undoes pushing, and what holds of every address on the stack goes on
to hold when addresses come and go.
-/

namespace Chip8.Stack

/-- The pointer lies in the stack, and the free slots are clear. -/
structure WellFormed (stack : Stack) : Prop where
  low : 0 ≤ stack.pointer.toInt
  high : stack.pointer.toInt ≤ 16
  free : ∀ i : Fin 16, stack.pointer.toInt ≤ i.val → stack.slots[i] = 0

variable {stack : Stack}

theorem isFull_iff : stack.isFull = true ↔ 16 ≤ stack.pointer.toInt := by
  rw [isFull, decide_eq_true_eq, Int32.le_iff_toInt_le]
  rfl

theorem isEmpty_iff : stack.isEmpty = true ↔ stack.pointer.toInt ≤ 0 := by
  rw [isEmpty, decide_eq_true_eq, Int32.le_iff_toInt_le]
  rfl

theorem wellFormed_empty : empty.WellFormed where
  low := by decide
  high := by decide
  free i _ := by simp [empty]

theorem push_of_place {top : Fin 16} (place : stack.pointer.toInt = top.val) (address : UInt16) :
    stack.push address = ⟨stack.slots.set top address, stack.pointer + 1⟩ := by
  rw [push, place, Table.write_of_lt _ _ top.isLt]

theorem pop_of_place {top : Fin 16} (place : (stack.pointer - 1).toInt = top.val) :
    stack.pop = (stack.slots[top], ⟨stack.slots.set top 0, stack.pointer - 1⟩) := by
  simp only [pop, place, Table.readNearest_of_lt _ top.isLt, Table.write_of_lt _ _ top.isLt]
  rfl

theorem WellFormed.place_of_room (wellFormed : stack.WellFormed) (room : stack.isFull = false) :
    ∃ top : Fin 16, stack.pointer.toInt = top.val ∧ (stack.pointer + 1).toInt = top.val + 1 := by
  have low := wellFormed.low
  rw [← Bool.not_eq_true, isFull_iff] at room
  have next : (stack.pointer + 1).toInt = stack.pointer.toInt + 1 := by
    rw [Int32.toInt_add]
    exact Int.bmod_eq_of_le (by simp; omega) (by simp; omega)
  refine ⟨⟨stack.pointer.toInt.toNat, by omega⟩, ?_, ?_⟩ <;> dsimp only <;> omega

theorem WellFormed.place_of_used (wellFormed : stack.WellFormed) (used : stack.isEmpty = false) :
    ∃ top : Fin 16, (stack.pointer - 1).toInt = top.val ∧ stack.pointer.toInt = top.val + 1 := by
  have high := wellFormed.high
  rw [← Bool.not_eq_true, isEmpty_iff] at used
  have previous : (stack.pointer - 1).toInt = stack.pointer.toInt - 1 := by
    rw [Int32.toInt_sub]
    exact Int.bmod_eq_of_le (by simp; omega) (by simp; omega)
  refine ⟨⟨(stack.pointer.toInt - 1).toNat, by omega⟩, ?_, ?_⟩ <;> dsimp only <;> omega

theorem WellFormed.push (wellFormed : stack.WellFormed) (room : stack.isFull = false)
    (address : UInt16) : (stack.push address).WellFormed := by
  obtain ⟨top, place, next⟩ := wellFormed.place_of_room room
  rw [push_of_place place]
  constructor
  · dsimp only
    omega
  · dsimp only
    omega
  · intro i beyond
    dsimp only at beyond ⊢
    have apart : top.val ≠ i.val := by omega
    rw [Fin.getElem_fin, Vector.getElem_set_ne _ _ apart]
    exact wellFormed.free i (by omega)

theorem WellFormed.pop (wellFormed : stack.WellFormed) (used : stack.isEmpty = false) :
    stack.pop.2.WellFormed := by
  obtain ⟨top, place, above⟩ := wellFormed.place_of_used used
  rw [pop_of_place place]
  constructor
  · dsimp only
    omega
  · dsimp only
    omega
  · intro i beyond
    dsimp only at beyond ⊢
    by_cases here : top.val = i.val
    · simp [Fin.getElem_fin, here]
    · rw [Fin.getElem_fin, Vector.getElem_set_ne _ _ here]
      exact wellFormed.free i (by omega)

theorem WellFormed.pointer_push (wellFormed : stack.WellFormed) (room : stack.isFull = false)
    (address : UInt16) : (stack.push address).pointer.toInt = stack.pointer.toInt + 1 := by
  obtain ⟨top, place, next⟩ := wellFormed.place_of_room room
  rw [push_of_place place, place]
  exact next

theorem WellFormed.pop_push (wellFormed : stack.WellFormed) (room : stack.isFull = false)
    (address : UInt16) : (stack.push address).pop = (address, stack) := by
  obtain ⟨top, place, next⟩ := wellFormed.place_of_room room
  have back : stack.pointer + 1 - 1 = stack.pointer := by
    rw [Int32.add_sub_cancel]
  have clear : stack.slots[top.val] = 0 := wellFormed.free top (by omega)
  have restored : (stack.slots.set top.val address).set top.val 0 = stack.slots := by
    rw [Vector.set_set, ← clear, Vector.set_getElem_self]
  have popped : ((stack.push address).pointer - 1).toInt = top.val := by
    rw [push_of_place place, back]
    exact place
  rw [pop_of_place popped, push_of_place place]
  simp [back, restored]

def All (property : UInt16 → Prop) (stack : Stack) : Prop :=
  ∀ i : Fin 16, i.val < stack.pointer.toInt → property (stack.slots.get i)

variable {property : UInt16 → Prop}

theorem all_empty : empty.All property := by
  intro i below
  exact absurd below (by simp [empty])

theorem All.push (all : stack.All property) (wellFormed : stack.WellFormed)
    (room : stack.isFull = false) {address : UInt16} (holds : property address) :
    (stack.push address).All property := by
  obtain ⟨top, place, next⟩ := wellFormed.place_of_room room
  rw [push_of_place place]
  intro i below
  dsimp only at below
  change property (stack.slots.set top address)[i.val]
  by_cases here : top.val = i.val
  · simpa [here] using holds
  · rw [Vector.getElem_set_ne _ _ here]
    exact all i (by omega)

theorem All.pop (all : stack.All property) (wellFormed : stack.WellFormed)
    (used : stack.isEmpty = false) : property stack.pop.1 ∧ stack.pop.2.All property := by
  obtain ⟨top, place, above⟩ := wellFormed.place_of_used used
  rw [pop_of_place place]
  refine ⟨all top (by omega), ?_⟩
  intro i below
  dsimp only at below
  have apart : top.val ≠ i.val := by omega
  change property (stack.slots.set top 0)[i.val]
  rw [Vector.getElem_set_ne _ _ apart]
  exact all i (by omega)

end Chip8.Stack
