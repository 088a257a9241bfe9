import Chip8.Table

/-!
Checked access to a table: a position outside it is an error. A masked access also takes the position
just past the end, which stands for an entry that is not meant. The lemmas say that whatever the check
lets through is what the total operations do.
-/

namespace Chip8.Table

variable {α : Type} {size : Nat}

def read? (table : Vector α size) (position : Int) : Option α :=
  if inside : 0 ≤ position ∧ position < size then some (table.get ⟨position.toNat, by omega⟩)
  else none

def write? (table : Vector α size) (position : Int) (entry : α) : Option (Vector α size) :=
  if inside : 0 ≤ position ∧ position < size then
    some (table.set position.toNat entry (by omega))
  else none

/-- The position just past the end reads as a given value. -/
def readMasked? (table : Vector α size) (position : Int) (absent : α) : Option α :=
  if position = size then some absent else read? table position

def writeMasked? (table : Vector α size) (position : Int) (entry : α) : Option (Vector α size) :=
  if position = size then some table else write? table position entry

def store? (table : Vector α size) (start : Nat) : List α → Option (Vector α size)
  | [] => some table
  | entry :: rest => do store? (← write? table start entry) (start + 1) rest

def gather? (table : Vector α size) (absent : α) : List Nat → Option (List α)
  | [] => some []
  | position :: rest => do
    let entry ← readMasked? table position absent
    let entries ← gather? table absent rest
    return entry :: entries

def scatter? (table : Vector α size) : List (Nat × α) → Option (Vector α size)
  | [] => some table
  | (position, entry) :: rest => do scatter? (← writeMasked? table position entry) rest

variable {table : Vector α size}

theorem read?_of_lt {position : Nat} (inside : position < size) :
    read? table position = some table[position] := by
  have within : 0 ≤ (position : Int) ∧ (position : Int) < size := by omega
  rw [read?, dif_pos within]
  rfl

theorem write?_of_lt {position : Nat} (inside : position < size) (entry : α) :
    write? table position entry = some (table.set position entry) := by
  have within : 0 ≤ (position : Int) ∧ (position : Int) < size := by omega
  rw [write?, dif_pos within]
  rfl

theorem readMasked?_of_le {position : Nat} (inside : position ≤ size) (absent : α) :
    readMasked? table position absent = some (readOr table position absent) := by
  unfold readMasked?
  split
  · rw [readOr, place?_eq_none_of_le (by omega)]
  · have within : position < size := by omega
    rw [read?_of_lt within, readOr_of_lt table absent within]

theorem writeMasked?_of_le {position : Nat} (inside : position ≤ size) (entry : α) :
    writeMasked? table position entry = some (write table position entry) := by
  unfold writeMasked?
  split
  · rw [write_of_le table entry (by omega)]
  · have within : position < size := by omega
    rw [write?_of_lt within, write_of_lt table entry within]

theorem store?_of_le {start : Nat} {entries : List α} (inside : start + entries.length ≤ size) :
    store? table start entries = some (store table start entries) := by
  induction entries generalizing table start with
  | nil => rfl
  | cons entry rest ih =>
    rw [List.length_cons] at inside
    have within : start < size := by omega
    have plain : table.setIfInBounds start entry = table.set start entry := by
      apply Vector.ext
      intro i _
      rw [Vector.getElem_setIfInBounds, Vector.getElem_set]
    rw [store?, write?_of_lt within, store, plain]
    exact ih (by omega)

theorem gather?_of_le {positions : List Nat} (inside : ∀ position ∈ positions, position ≤ size)
    (absent : α) :
    gather? table absent positions =
      some (positions.map fun position : Nat => readOr table position absent) := by
  induction positions with
  | nil => rfl
  | cons position rest ih =>
    rw [gather?, readMasked?_of_le (inside position List.mem_cons_self) absent,
      ih (fun later member => inside later (List.mem_cons_of_mem _ member))]
    rfl

theorem scatter?_of_le {writes : List (Nat × α)} (inside : ∀ w ∈ writes, w.1 ≤ size) :
    scatter? table writes = some (writes.foldl (fun table w => write table w.1 w.2) table) := by
  induction writes generalizing table with
  | nil => rfl
  | cons first rest ih =>
    rw [scatter?, writeMasked?_of_le (inside first List.mem_cons_self)]
    exact ih fun later member => inside later (List.mem_cons_of_mem _ member)

theorem getElem_write {position : Nat} (table : Vector α size) (entry : α) (i : Nat)
    (inside : i < size) :
    (write table position entry)[i] = if position = i then entry else table[i] := by
  by_cases within : position < size
  · rw [write_of_lt table entry within, Vector.getElem_set]
  · have apart : position ≠ i := by omega
    rw [write_of_le table entry (by omega), if_neg apart]

/-- Where all writes to a place agree, the order in which they are made does not matter. -/
theorem getElem_foldl_write {β : Type} {writes : List β} {position : β → Nat} {entry : β → α}
    {i : Nat} {value : α} (agree : ∀ w ∈ writes, position w = i → entry w = value) (table : Vector α size)
    (inside : i < size) :
    (writes.foldl (fun table w => write table (position w) (entry w)) table)[i] =
      if ∃ w ∈ writes, position w = i then value else table[i] := by
  induction writes generalizing table with
  | nil => simp
  | cons first rest ih =>
    rw [List.foldl_cons, ih (fun w member => agree w (List.mem_cons_of_mem _ member)), getElem_write]
    by_cases here : position first = i
    · have same := agree first List.mem_cons_self here
      simp [here, same]
    · simp [here]

end Chip8.Table
