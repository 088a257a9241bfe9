/-!
Access to a table of fixed size at any whole number. A negative position counts back from the end.
What remains outside the table is read as the nearest entry by `readNearest` and as a given value by
`readOr`, and `write` drops it. `store` writes a run of entries. The lemmas say that inside the
table all of these are plain indexing.
-/

namespace Chip8.Table

variable {α : Type} {size : Nat}

def fromEnd (size : Nat) (position : Int) : Int :=
  if position < 0 then position + size else position

def place? (size : Nat) (position : Int) : Option (Fin size) :=
  if inside : 0 ≤ fromEnd size position ∧ fromEnd size position < size then
    some ⟨(fromEnd size position).toNat, by omega⟩
  else none

def nearest (last : Nat) (position : Int) : Fin (last + 1) :=
  ⟨min (fromEnd (last + 1) position).toNat last, by omega⟩

def readNearest {last : Nat} (table : Vector α (last + 1)) (position : Int) : α :=
  table.get (nearest last position)

def readOr (table : Vector α size) (position : Int) (absent : α) : α :=
  match place? size position with
  | some place => table[place]
  | none => absent

def write (table : Vector α size) (position : Int) (entry : α) : Vector α size :=
  match place? size position with
  | some place => table.set place entry
  | none => table

def store (table : Vector α size) (start : Nat) : List α → Vector α size
  | [] => table
  | entry :: rest => store (table.setIfInBounds start entry) (start + 1) rest

theorem fromEnd_of_nonneg {position : Int} (nonneg : 0 ≤ position) :
    fromEnd size position = position := by
  have : ¬ position < 0 := by omega
  simp [fromEnd, this]

theorem place?_of_lt {position : Nat} (inside : position < size) :
    place? size position = some ⟨position, inside⟩ := by
  have plain : fromEnd size (position : Int) = position := fromEnd_of_nonneg (by omega)
  simp [place?, plain, inside]

theorem place?_eq_none_of_le {position : Nat} (outside : size ≤ position) :
    place? size position = none := by
  have plain : fromEnd size (position : Int) = position := fromEnd_of_nonneg (by omega)
  have : ¬ position < size := by omega
  simp [place?, plain, this]

theorem nearest_of_lt {last position : Nat} (inside : position < last + 1) :
    nearest last position = ⟨position, inside⟩ := by
  have plain : fromEnd (last + 1) (position : Int) = position := fromEnd_of_nonneg (by omega)
  apply Fin.ext
  simp only [nearest, plain, Int.toNat_natCast]
  omega

theorem readNearest_of_lt {last : Nat} (table : Vector α (last + 1)) {position : Nat}
    (inside : position < last + 1) : readNearest table position = table[position] := by
  rw [readNearest, nearest_of_lt inside]
  rfl

theorem readOr_of_lt (table : Vector α size) {position : Nat} (absent : α)
    (inside : position < size) : readOr table position absent = table[position] := by
  simp [readOr, place?_of_lt inside]

theorem write_of_lt (table : Vector α size) {position : Nat} (entry : α)
    (inside : position < size) : write table position entry = table.set position entry := by
  simp [write, place?_of_lt inside]

theorem write_of_le (table : Vector α size) {position : Nat} (entry : α)
    (outside : size ≤ position) : write table position entry = table := by
  simp [write, place?_eq_none_of_le outside]

@[simp] theorem store_nil (table : Vector α size) (start : Nat) :
    store table start [] = table := rfl

theorem getElem_store (table : Vector α size) (start : Nat) (entries : List α) (i : Nat)
    (inside : i < size) :
    (store table start entries)[i] =
      if written : start ≤ i ∧ i < start + entries.length then
        entries.get ⟨i - start, by omega⟩
      else table[i] := by
  induction entries generalizing table start with
  | nil =>
    have : ¬ (start ≤ i ∧ i < start) := by omega
    simp [store, this]
  | cons entry rest ih =>
    rw [store, ih]
    by_cases here : i = start
    · subst here
      rw [dif_neg (by omega), dif_pos ⟨Nat.le_refl _, by simp⟩]
      simp
    · have unequal : start ≠ i := Ne.symm here
      by_cases later : start + 1 ≤ i ∧ i < start + 1 + rest.length
      · have shift : i - start = (i - (start + 1)) + 1 := by omega
        rw [dif_pos later, dif_pos (by simp only [List.length_cons]; omega)]
        simp only [List.get_eq_getElem, shift, List.getElem_cons_succ]
      · rw [dif_neg later, dif_neg (by simp only [List.length_cons]; omega),
          Vector.getElem_setIfInBounds, if_neg unequal]

end Chip8.Table
