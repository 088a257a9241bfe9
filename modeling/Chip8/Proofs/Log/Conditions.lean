import Chip8.Log.RunLog

/-!
Conditions one after another, as a log counts and ranks them. The counts list each class of conditions
that was met, with their number (`counts_addAll`). The level of a condition is told by the condition and
those before it, whatever of them was written (`ranked_conditionLevel`).
-/

namespace Chip8.Log

namespace Tally

def addAll (tally : Tally) (conditions : List Condition) : Tally :=
  conditions.foldl (fun tally condition => tally.add condition.name) tally

@[simp] theorem addAll_nil (tally : Tally) : tally.addAll [] = tally := rfl

theorem addAll_cons (tally : Tally) (condition : Condition) (rest : List Condition) :
    tally.addAll (condition :: rest) = (tally.add condition.name).addAll rest := rfl

theorem addAll_append (tally : Tally) (conditions later : List Condition) :
    tally.addAll (conditions ++ later) = (tally.addAll conditions).addAll later :=
  List.foldl_append

theorem count_addAll (tally : Tally) (conditions : List Condition) (name : String) :
    (tally.addAll conditions).count name =
      tally.count name + conditions.countP (·.name = name) := by
  induction conditions generalizing tally with
  | nil => rfl
  | cons condition rest ih =>
    rw [addAll_cons, ih, count_add, List.countP_cons]
    by_cases same : condition.name = name
    · simp only [same, if_true, decide_true]
      omega
    · simp [same]

theorem mem_names_addAll (tally : Tally) (conditions : List Condition) (name : String) :
    name ∈ (tally.addAll conditions).map Prod.fst ↔
      name ∈ tally.map Prod.fst ∨ ∃ condition ∈ conditions, condition.name = name := by
  induction conditions generalizing tally with
  | nil => simp
  | cons condition rest ih =>
    rw [addAll_cons, ih, mem_names_add, or_assoc]
    simp only [List.mem_cons, exists_eq_or_imp]

theorem nodup_names_addAll {tally : Tally} (once : (tally.map Prod.fst).Nodup)
    (conditions : List Condition) : ((tally.addAll conditions).map Prod.fst).Nodup := by
  induction conditions generalizing tally with
  | nil => exact once
  | cons condition rest ih => exact ih (nodup_names_add once condition.name)

end Tally

/-- The counts of conditions: each class that was met is listed once, under its name and with the number
of conditions of this class. -/
structure Counts (conditions : List Condition) (tally : Tally) : Prop where
  once : (tally.map Prod.fst).Nodup
  listed : ∀ name, name ∈ tally.map Prod.fst ↔ ∃ condition ∈ conditions, condition.name = name
  number : ∀ condition ∈ conditions,
    (condition.name, conditions.countP fun other => other.ctorIdx = condition.ctorIdx) ∈ tally

theorem counts_addAll (conditions : List Condition) :
    Counts conditions (Tally.addAll [] conditions) := by
  have listed (name : String) : name ∈ (Tally.addAll [] conditions).map Prod.fst ↔
      ∃ condition ∈ conditions, condition.name = name :=
    (Tally.mem_names_addAll [] conditions name).trans (by simp)
  have empty : (([] : Tally).map Prod.fst).Nodup := List.nodup_nil
  refine ⟨Tally.nodup_names_addAll empty conditions, listed, fun condition member => ?_⟩
  have entry := Tally.mem_of_listed ((listed condition.name).mpr ⟨condition, member, rfl⟩)
  rw [Tally.count_addAll] at entry
  simpa only [Tally.count, Nat.zero_add, Condition.name_eq_iff] using entry

def FirstUnknown (before : List Condition) (condition : Condition) : Prop :=
  (∃ word, condition = .unknownInstruction word) ∧ ∀ word, .unknownInstruction word ∉ before

/-- The level of a condition after others: fatal ones are errors, the first unknown instruction is a
warning, and all others are of interest to debugging only. -/
structure Ranked (before : List Condition) (condition : Condition) (level : Level) : Prop where
  error : level = .error ↔ condition.isFatal = true
  warning : level = .warning ↔ FirstUnknown before condition
  debug : level = .debug ↔ condition.isFatal = false ∧ ¬ FirstUnknown before condition

section Levels

variable {before : List Condition} {condition : Condition}

theorem FirstUnknown.isFatal (first : FirstUnknown before condition) :
    condition.isFatal = false := by
  obtain ⟨⟨word, rfl⟩, -⟩ := first
  rfl

theorem isUnknown_iff :
    Logger.isUnknown condition = true ↔ ∃ word, condition = .unknownInstruction word := by
  cases condition <;> simp [Logger.isUnknown]

theorem count_add_addAll_eq_one_iff {name : String} :
    Tally.count (Tally.add name (Tally.addAll [] before)) name = 1 ↔
      ∀ other ∈ before, other.name ≠ name := by
  rw [Tally.count_add, if_pos rfl, Tally.count_addAll, Tally.count, Nat.zero_add,
    Nat.add_eq_right, List.countP_eq_zero]
  simp only [decide_eq_true_eq, ne_eq]

theorem firstUnknown_iff :
    FirstUnknown before condition ↔
      (Logger.isUnknown condition &&
        Tally.count (Tally.add condition.name (Tally.addAll [] before)) condition.name == 1) = true := by
  rw [Bool.and_eq_true, beq_iff_eq, isUnknown_iff, count_add_addAll_eq_one_iff]
  apply and_congr_right
  rintro ⟨word, rfl⟩
  constructor
  · intro none other member same
    cases other with
    | unknownInstruction met => exact none met member
    | _ => simp [Condition.name] at same
  · exact fun none word member => none _ member rfl

theorem ranked_conditionLevel (before : List Condition) (condition : Condition) :
    Ranked before condition
      (Logger.conditionLevel (Tally.add condition.name (Tally.addAll [] before)) condition) := by
  rw [Logger.conditionLevel]
  by_cases fatal : condition.isFatal = true
  · have later : ¬ FirstUnknown before condition := fun first => by simp [first.isFatal] at fatal
    rw [if_pos fatal]
    constructor <;> simp [fatal, later]
  · rw [if_neg fatal]
    by_cases first : FirstUnknown before condition
    · rw [if_pos (firstUnknown_iff.mp first)]
      constructor <;> simp [fatal, first]
    · rw [if_neg (mt firstUnknown_iff.mpr first)]
      constructor <;> simp [fatal, first]

end Levels

end Chip8.Log
