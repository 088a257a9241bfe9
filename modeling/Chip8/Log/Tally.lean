/-!
Counts by name. `count_add` says that counting a name once more changes its own count only, and
`names_add` that it lists the name if it was not listed yet.
-/

namespace Chip8.Log

abbrev Tally := List (String × Nat)

namespace Tally

def count : Tally → String → Nat
  | [], _ => 0
  | (other, number) :: rest, name => if other = name then number else count rest name

/-- Counts a name once more. A new name goes to the end. -/
def add (name : String) : Tally → Tally
  | [] => [(name, 1)]
  | (other, count) :: rest =>
    if other = name then (other, count + 1) :: rest else (other, count) :: add name rest

def sorted (tally : Tally) : Tally := tally.mergeSort fun a b => !(b.1 < a.1)

theorem count_add (name other : String) (tally : Tally) :
    count (add name tally) other =
      if name = other then count tally name + 1 else count tally other := by
  induction tally with
  | nil => rfl
  | cons entry rest ih =>
    obtain ⟨first, number⟩ := entry
    by_cases here : first = name
    · subst here
      by_cases same : first = other <;> simp [add, count, same]
    · by_cases found : first = other
      · subst found
        simp [add, count, here, Ne.symm here]
      · simp [add, count, here, found, ih]

theorem names_add (name : String) (tally : Tally) :
    (add name tally).map Prod.fst =
      if name ∈ tally.map Prod.fst then tally.map Prod.fst else tally.map Prod.fst ++ [name] := by
  induction tally with
  | nil => rfl
  | cons entry rest ih =>
    obtain ⟨first, number⟩ := entry
    by_cases here : first = name
    · subst here
      simp [add]
    · by_cases listed : name ∈ rest.map Prod.fst
      · simp [add, here, ih, listed]
      · simp [add, here, Ne.symm here, ih, listed]

theorem mem_names_add {name other : String} {tally : Tally} :
    other ∈ (add name tally).map Prod.fst ↔ other ∈ tally.map Prod.fst ∨ name = other := by
  rw [names_add]
  split
  · next listed => exact ⟨.inl, fun either => either.elim id fun same => same ▸ listed⟩
  · rw [List.mem_append, List.mem_singleton, eq_comm]

theorem nodup_names_add {tally : Tally} (once : (tally.map Prod.fst).Nodup) (name : String) :
    ((add name tally).map Prod.fst).Nodup := by
  rw [names_add]
  split
  · exact once
  · next unlisted =>
    have apart : ∀ listed ∈ tally.map Prod.fst, ∀ other ∈ [name], listed ≠ other := by
      intro listed member other new same
      rw [same, List.mem_singleton.mp new] at member
      exact unlisted member
    exact List.nodup_append.mpr ⟨once, List.pairwise_singleton _ _, apart⟩

theorem mem_of_listed {tally : Tally} {name : String} (listed : name ∈ tally.map Prod.fst) :
    (name, count tally name) ∈ tally := by
  induction tally with
  | nil => exact absurd listed List.not_mem_nil
  | cons entry rest ih =>
    obtain ⟨first, number⟩ := entry
    by_cases here : first = name
    · subst here
      simp [count]
    · have later : name ∈ rest.map Prod.fst := by simpa [Ne.symm here] using listed
      rw [count, if_neg here]
      exact List.mem_cons_of_mem _ (ih later)

end Tally

end Chip8.Log
