import Chip8.Proofs.InstructionSet
import Chip8.Proofs.Machine.Journal

/-!
The stream of random bytes. The key of a machine is its first key, replaced once for each draw in the
journal, and a draw takes its byte from the key that it finds. Whatever draws nothing does the same
with any other key and leaves it in place (`serve_rekeyed`).
-/

namespace Chip8

open Word

def Instruction.Draws (instruction : Instruction) : Prop :=
  ∃ x mask, instruction = .random x mask

theorem Instruction.draws_decode_iff {word : UInt16} :
    (decode word).Draws ↔ Matches "CXNN" word := by
  constructor
  · rintro ⟨y, mask, decoded⟩
    have encodes := (decode_eq_iff Instruction.noConfusion).mp decoded
    cases encodes with
    | random form => exact form
  · intro form
    exact ⟨x word, byte word, decode_of_encodes (.random form)⟩

def Machine.Undrawn (machine : Machine) : Prop :=
  ∀ instruction, machine.fetched? = some instruction → ¬ instruction.Draws

namespace Periphery

def rekeyed (periphery : Periphery) (key : RandomKey) : Periphery := { periphery with rng := key }

variable {periphery : Periphery} {machine : Machine} {instruction : Instruction}

theorem updated_of_draws (draws : instruction.Draws) :
    periphery.updated machine instruction = periphery.rekeyed periphery.rng.next := by
  obtain ⟨y, mask, rfl⟩ := draws
  rfl

theorem updated_rng (undrawn : ¬ instruction.Draws) :
    (periphery.updated machine instruction).rng = periphery.rng := by
  cases instruction with
  | random y mask => exact absurd ⟨y, mask, rfl⟩ undrawn
  | _ => rfl

theorem updated_rekeyed (undrawn : ¬ instruction.Draws) (key : RandomKey) :
    (periphery.rekeyed key).updated machine instruction =
      (periphery.updated machine instruction).rekeyed key := by
  cases instruction with
  | random y mask => exact absurd ⟨y, mask, rfl⟩ undrawn
  | _ => rfl

theorem executed_rekeyed {word : UInt16} (undrawn : ¬ (Instruction.decode word).Draws)
    (key : RandomKey) :
    (periphery.rekeyed key).executed machine word =
      (periphery.executed machine word).rekeyed key := by
  rw [executed, updated_rekeyed undrawn]
  rfl

end Periphery

namespace Machine

def Entry.isDraw : Entry → Bool
  | executed word _ _ => Matches "CXNN" word
  | ticked | restarted => false

def draws (journal : List Entry) : Nat := journal.countP Entry.isDraw

def Entry.advance (entry : Entry) (key : RandomKey) : RandomKey :=
  if entry.isDraw then key.next else key

variable {machine : Machine} {word : UInt16}

theorem isDraw_executed_iff {before after : Machine} :
    (Entry.executed word before after).isDraw = true ↔ (Instruction.decode word).Draws := by
  rw [Instruction.draws_decode_iff]
  exact decide_eq_true_iff

theorem follows_advance : Follows Periphery.rng Entry.advance where
  executed word before after := by
    rw [Entry.advance]
    by_cases draws : (Instruction.decode word).Draws
    · rw [if_pos (isDraw_executed_iff.mpr draws), Periphery.updated_of_draws draws]
      rfl
    · rw [if_neg (mt isDraw_executed_iff.mp draws), Periphery.updated_rng draws]
  ticked _ := rfl
  restarted _ := rfl
  blind _ _ _ _ := rfl

/-- The entries of a journal replace the key once for each draw. -/
theorem foldr_advance (journal : List Entry) (key : RandomKey) :
    journal.foldr Entry.advance key = RandomKey.next^[draws journal] key := by
  induction journal with
  | nil => rfl
  | cons entry journal ih =>
    rw [List.foldr_cons, Entry.advance, ih]
    split
    · rename_i draw
      rw [draws, draws, List.countP_cons_of_pos draw, Function.iterate_succ_apply']
    · rename_i other
      rw [draws, draws, List.countP_cons_of_neg other]

theorem Executes.registers_of_random {before after : Machine} (executes : Executes before word after)
    (form : Matches "CXNN" word) :
    after.registers = before.registers.set (x word) (before.rng.byte &&& byte word) := by
  have decoded := Instruction.decode_of_encodes (.random form)
  rcases executes.registers with same | same <;> rw [same, decoded] <;> rfl

section Rekeyed

def rekeyed (machine : Machine) (key : RandomKey) : Machine := { machine with rng := key }

theorem fitted_rekeyed (machine : Machine) (key : RandomKey) :
    machine.fitted (machine.periphery.rekeyed key) = machine.rekeyed key := rfl

theorem overlooks_rekeyed {instruction : Instruction} (undrawn : ¬ instruction.Draws)
    (key : RandomKey) : machine.Overlooks (machine.periphery.rekeyed key) instruction :=
  overlooks_of_read (fun draws => absurd draws undrawn) (fun _ => rfl) (fun _ => rfl) rfl

theorem unreported_rekeyed (key : RandomKey) : Unreported fun periphery => periphery.rekeyed key :=
  fun _ _ _ => rfl

theorem passesOver_rekeyed (undrawn : machine.Undrawn) (key : RandomKey) :
    machine.PassesOver fun periphery => periphery.rekeyed key where
  ignores :=
    ⟨fun _ => rfl, fun instruction fetched => overlooks_rekeyed (undrawn instruction fetched) key⟩
  updated instruction fetched _ := Periphery.updated_rekeyed (undrawn instruction fetched) key

theorem execute_rekeyed (undrawn : ¬ (Instruction.decode word).Draws) (key : RandomKey) :
    (machine.rekeyed key).execute word = (machine.execute word).rekeyed key := by
  rw [← fitted_rekeyed, execute_fitted (overlooks_rekeyed undrawn key),
    Periphery.executed_rekeyed undrawn, ← execute_periphery, fitted_rekeyed]

theorem step_rekeyed (undrawn : machine.Undrawn) (key : RandomKey) :
    (machine.rekeyed key).step = machine.step.rekeyed key := by
  have stepped := (passesOver_rekeyed undrawn key).step (unreported_rekeyed key)
  rwa [fitted_rekeyed, fitted_rekeyed] at stepped

theorem run_rekeyed {cycles : Int}
    (undrawn : ∀ i < machine.stepsOf cycles, (step^[i] machine).Undrawn) (key : RandomKey) :
    (machine.rekeyed key).run cycles =
      ((machine.run cycles).1.rekeyed key, (machine.run cycles).2) := by
  have ran := run_of_passesOver (unreported_rekeyed key) fun i before =>
    passesOver_rekeyed (undrawn i before) key
  rwa [fitted_rekeyed, fitted_rekeyed] at ran

theorem undrawn_of_stepEntries (none : draws machine.stepEntries = 0) : machine.Undrawn := by
  intro instruction fetched drawn
  have decoded := (fetched?_eq_some_iff.mp fetched).2.2
  rw [stepEntries, fetched, Option.isSome_some, if_pos rfl, draws, List.countP_eq_zero] at none
  rw [← decoded] at drawn
  exact none _ (List.mem_singleton.mpr rfl) (isDraw_executed_iff.mpr drawn)

theorem undrawn_of_stepsEntries {steps : Nat} (none : draws (machine.stepsEntries steps) = 0)
    {i : Nat} (before : i < steps) : (step^[i] machine).Undrawn := by
  induction steps with
  | zero => exact absurd before (Nat.not_lt_zero i)
  | succ steps ih =>
    rw [stepsEntries, draws, List.countP_append] at none
    rcases Nat.lt_succ_iff_lt_or_eq.mp before with early | rfl
    · exact ih (Nat.eq_zero_of_add_eq_zero_left none) early
    · exact undrawn_of_stepEntries (Nat.eq_zero_of_add_eq_zero_right none)

theorem run_rekeyed_of_entries {cycles : Int} (none : draws (machine.entries (.run cycles)) = 0)
    (key : RandomKey) :
    (machine.rekeyed key).run cycles =
      ((machine.run cycles).1.rekeyed key, (machine.run cycles).2) :=
  run_rekeyed (fun _ before => undrawn_of_stepsEntries none before) key

/-- A request that draws nothing neither reads the key nor replaces it. -/
theorem serve_rekeyed {request : Request} (none : draws (machine.entries request) = 0)
    (key : RandomKey) :
    (machine.rekeyed key).serve request = (machine.serve request).rekeyed key := by
  cases request with
  | load image =>
    by_cases fits : image.length ≤ programCapacity
    · rw [serve_load_of_le fits, serve_load_of_le fits]
      rfl
    · rw [serve_load_of_lt (Nat.lt_of_not_le fits), serve_load_of_lt (Nat.lt_of_not_le fits)]
  | reset => rfl
  | execute word =>
    apply execute_rekeyed
    intro drawn
    rw [entries, draws, List.countP_eq_zero] at none
    exact none _ (List.mem_singleton.mpr rfl) (isDraw_executed_iff.mpr drawn)
  | step => exact step_rekeyed (undrawn_of_stepEntries none) key
  | run cycles => exact congrArg Prod.fst (run_rekeyed_of_entries none key)
  | press number => rfl
  | release number => rfl
  | tick => rfl

end Rekeyed

/-- The random bytes of a history depend on the first key and on the number of draws alone. The key
is the first one replaced once for each draw, each draw takes its byte from the key it finds, and
nothing else reads the key or replaces it. -/
theorem random_stream (rng : RandomKey) (variant : Variant) (history : List Request) :
    let machine := (create rng variant).after history
    let journal := (create rng variant).journal history
    machine.rng = RandomKey.next^[draws journal] rng ∧
    (∀ (later : List Entry) (word : UInt16) (before after : Machine) (earlier : List Entry),
      journal = later ++ .executed word before after :: earlier → Matches "CXNN" word →
      after.registers =
        before.registers.set (x word) ((RandomKey.next^[draws earlier] rng).byte &&& byte word)) ∧
    ∀ (other : Machine) (key : RandomKey),
      (∀ request, draws (other.entries request) = 0 →
        (other.rekeyed key).serve request = (other.serve request).rekeyed key) ∧
      ∀ cycles, draws (other.entries (.run cycles)) = 0 →
        ((other.rekeyed key).run cycles).2 = (other.run cycles).2 := by
  intro machine journal
  refine ⟨?_, ?_, ?_⟩
  · rw [← foldr_advance]
    exact follows_advance.after (create rng variant) history
  · intro later word before after earlier split form
    obtain ⟨executes, met⟩ := follows_advance.shows_journal (create rng variant) history
      later word before after earlier split
    have key : before.rng = RandomKey.next^[draws earlier] rng := met.trans (foldr_advance earlier rng)
    rw [executes.registers_of_random form, key]
  · intro other key
    refine ⟨fun request none => serve_rekeyed none key, ?_⟩
    intro cycles none
    rw [run_rekeyed_of_entries none key]

end Machine

end Chip8
