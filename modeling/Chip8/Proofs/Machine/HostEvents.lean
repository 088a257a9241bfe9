import Chip8.Proofs.Machine.Lockstep
import Chip8.Proofs.Machine.WellFormed

/-!
Host events beside a run. Ticking the timers and moving a key are changes of the periphery, and a step
passes over such a change unless its word looks at the timers, or at the keys. So before a run without
such words is as good a moment for the event as after it, which is the main result.
-/

namespace Chip8

open Machine Word

def Instruction.usesTimers : Instruction → Bool
  | readDelay _ | setDelay _ | setSound _ => true
  | _ => false

namespace Periphery

def ticked (periphery : Periphery) : Periphery :=
  { periphery with
    delayTimer := if periphery.delayTimer = 0 then 0 else periphery.delayTimer - 1
    soundTimer := if periphery.soundTimer = 0 then 0 else periphery.soundTimer - 1 }

def keyed (number : Int) (held : Bool) (periphery : Periphery) : Periphery :=
  { periphery with keypad := periphery.keypad.put number held }

variable {instruction : Instruction}

theorem updated_ticked (unused : instruction.usesTimers = false) (machine : Machine)
    (periphery : Periphery) :
    periphery.ticked.updated machine instruction =
      (periphery.updated machine instruction).ticked := by
  cases instruction with
  | setDelay x => exact Bool.noConfusion unused
  | setSound x => exact Bool.noConfusion unused
  | _ => rfl

theorem updated_keyed (number : Int) (held : Bool) (machine : Machine) (instruction : Instruction)
    (periphery : Periphery) :
    (periphery.keyed number held).updated machine instruction =
      (periphery.updated machine instruction).keyed number held := by
  cases instruction <;> rfl

end Periphery

section Words

variable {word : UInt16} {instruction : Instruction}

theorem Encodes.matches_of_usesTimers (encodes : Encodes word instruction)
    (uses : instruction.usesTimers = true) :
    ∃ pattern ∈ ["FX07", "FX15", "FX18"], Matches pattern word := by
  cases encodes with
  | readDelay form => exact ⟨"FX07", by simp, form⟩
  | setDelay form => exact ⟨"FX15", by simp, form⟩
  | setSound form => exact ⟨"FX18", by simp, form⟩
  | _ => exact Bool.noConfusion uses

theorem Encodes.matches_of_readsKeys (encodes : Encodes word instruction)
    (reads : instruction.readsKeys = true) :
    ∃ pattern ∈ ["EX9E", "EXA1", "FX0A"], Matches pattern word := by
  cases encodes with
  | skipIfKey form => exact ⟨"EX9E", by simp, form⟩
  | skipUnlessKey form => exact ⟨"EXA1", by simp, form⟩
  | awaitKey form => exact ⟨"FX0A", by simp, form⟩
  | _ => exact Bool.noConfusion reads

end Words

namespace Machine

/-- None of the steps that a run makes, the one that stops it included, executes a word of one of the
patterns. -/
def RunAvoids (machine : Machine) (cycles : Int) (patterns : List String) : Prop :=
  ∀ i < machine.stepsOf cycles, (step^[i] machine).fetched?.isSome = true →
    ∀ pattern ∈ patterns, ¬ Matches pattern (step^[i] machine).nextWord

instance (machine : Machine) (cycles : Int) (patterns : List String) :
    Decidable (machine.RunAvoids cycles patterns) :=
  inferInstanceAs (Decidable (∀ i < _, _ → _))

variable {machine : Machine} {cycles : Int} {patterns : List String} {steps : Nat}

/-- A property of instructions that shows in their words does not occur in a run without them. -/
theorem RunAvoids.of_fetched? (avoids : machine.RunAvoids cycles patterns)
    {property : Instruction → Bool} (clean : property .unknown = false)
    (shows : ∀ {word instruction}, Encodes word instruction → property instruction = true →
      ∃ pattern ∈ patterns, Matches pattern word)
    {i : Nat} (before : i < machine.stepsOf cycles) {instruction : Instruction}
    (fetched : (step^[i] machine).fetched? = some instruction) : property instruction = false := by
  by_contra present
  rw [Bool.not_eq_false] at present
  have listed : instruction ≠ .unknown := by
    rintro rfl
    exact Bool.false_ne_true (clean.symm.trans present)
  have encodes := (Instruction.decode_eq_iff listed).mp (fetched?_eq_some_iff.mp fetched).2.2
  obtain ⟨pattern, member, form⟩ := shows encodes present
  exact avoids i before (Option.isSome_iff_exists.mpr ⟨instruction, fetched⟩) pattern member form

theorem unreported_ticked : Unreported Periphery.ticked := fun _ _ _ => rfl

theorem passesOver_ticked
    (unused : ∀ instruction, machine.fetched? = some instruction →
      instruction.usesTimers = false) : machine.PassesOver Periphery.ticked where
  ignores := by
    refine ⟨fun _ => rfl, fun instruction fetched => ?_⟩
    refine overlooks_of_read (fun _ => rfl) ?_ (fun _ => rfl) rfl
    rintro ⟨x, rfl⟩
    exact Bool.noConfusion (unused _ fetched)
  updated instruction fetched periphery :=
    Periphery.updated_ticked (unused instruction fetched) machine periphery

theorem unreported_keyed (number : Int) (held : Bool) :
    Unreported (Periphery.keyed number held) := fun _ _ _ => rfl

theorem passesOver_keyed (running : machine.waiting = false)
    (unread : ∀ instruction, machine.fetched? = some instruction → instruction.readsKeys = false)
    (number : Int) (held : Bool) : machine.PassesOver (Periphery.keyed number held) where
  ignores := by
    refine ⟨fun waiting => absurd (running.symm.trans waiting) Bool.false_ne_true, ?_⟩
    intro instruction fetched
    refine overlooks_of_read (fun _ => rfl) (fun _ => rfl) ?_ rfl
    intro reads
    exact absurd ((unread _ fetched).symm.trans reads) Bool.false_ne_true
  updated instruction _ := Periphery.updated_keyed number held machine instruction

theorem step_waiting_of_running (running : machine.waiting = false)
    (unread : ∀ instruction, machine.fetched? = some instruction → instruction.readsKeys = false) :
    machine.step.waiting = false := by
  rcases step_cases machine with ⟨waiting, key, -, -⟩ | ⟨waiting, -, -⟩ |
    ⟨instruction, fetched, -, performed⟩ | ⟨instruction, -, -, failure⟩ | ⟨-, -, stands⟩
  · exact absurd (running.symm.trans waiting) Bool.false_ne_true
  · exact absurd (running.symm.trans waiting) Bool.false_ne_true
  · rw [performed]
    change (machine.fetch.2.perform instruction).1.waiting = false
    rcases perform_control machine.fetch.2 instruction with same | ⟨-, pc, pushed⟩ | ⟨-, popped⟩ |
      ⟨x, rfl⟩
    · exact same.waiting.trans running
    · rw [pushed]
      exact running
    · rw [popped]
      exact running
    · exact Bool.noConfusion (unread _ fetched)
  · rw [failure]
    exact running
  · rw [stands]
    exact running

theorem iterate_step_waiting_of_running (running : machine.waiting = false)
    (unread : ∀ i < steps, ∀ instruction, (step^[i] machine).fetched? = some instruction →
      instruction.readsKeys = false) : (step^[steps] machine).waiting = false := by
  induction steps with
  | zero => exact running
  | succ steps ih =>
    rw [Function.iterate_succ_apply']
    exact step_waiting_of_running (ih fun i before => unread i (Nat.lt_succ_of_lt before))
      (unread steps (Nat.lt_succ_self steps))

theorem run_tickTimers (avoids : machine.RunAvoids cycles ["FX07", "FX15", "FX18"]) :
    machine.tickTimers.run cycles = ((machine.run cycles).1.tickTimers, (machine.run cycles).2) := by
  have ran := run_of_passesOver unreported_ticked fun i before =>
    passesOver_ticked fun _ => avoids.of_fetched? rfl Encodes.matches_of_usesTimers before
  exact ran

theorem run_putKey (running : machine.waiting = false)
    (avoids : machine.RunAvoids cycles ["EX9E", "EXA1", "FX0A"]) (number : Int) (held : Bool) :
    ({ machine with keypad := machine.keypad.put number held } : Machine).run cycles =
      ({ (machine.run cycles).1 with keypad := (machine.run cycles).1.keypad.put number held },
        (machine.run cycles).2) := by
  have unread (i : Nat) (before : i < machine.stepsOf cycles) (instruction : Instruction)
      (fetched : (step^[i] machine).fetched? = some instruction) : instruction.readsKeys = false :=
    avoids.of_fetched? rfl Encodes.matches_of_readsKeys before fetched
  have ran := run_of_passesOver (unreported_keyed number held) fun i before =>
    passesOver_keyed
      (iterate_step_waiting_of_running running fun j earlier => unread j (Nat.lt_trans earlier before))
      (unread i before) number held
  exact ran

/-- Before a run or after it is the same moment for a host event that the run does not look at. A tick
may move across any run that leaves the timers alone, and a key across any run that starts without a
pending wait and does not look at the keys. -/
theorem host_events_commute (machine : Machine) (cycles : Int) :
    (machine.RunAvoids cycles ["FX07", "FX15", "FX18"] →
      machine.tickTimers.run cycles =
        ((machine.run cycles).1.tickTimers, (machine.run cycles).2)) ∧
    (machine.waiting = false → machine.RunAvoids cycles ["EX9E", "EXA1", "FX0A"] →
      ∀ key : Int,
        (machine.pressKey key).run cycles =
          ((machine.run cycles).1.pressKey key, (machine.run cycles).2) ∧
        (machine.releaseKey key).run cycles =
          ((machine.run cycles).1.releaseKey key, (machine.run cycles).2)) := by
  refine ⟨run_tickTimers, ?_⟩
  intro running avoids key
  exact ⟨run_putKey running avoids key true, run_putKey running avoids key false⟩

def counting : Machine :=
  { create ⟨0, 0⟩ {} with
    memory := Table.store (Vector.replicate 4096 0) programStart [0x71, 0x01, 0x12, 0x00]
    delayTimer := 2 }

theorem host_events_commute_counting :
    counting.RunAvoids 4 ["FX07", "FX15", "FX18"] ∧
    counting.tickTimers.run 4 = ((counting.run 4).1.tickTimers, (counting.run 4).2) ∧
    counting.waiting = false ∧ counting.RunAvoids 4 ["EX9E", "EXA1", "FX0A"] ∧
    (counting.pressKey 5).run 4 = ((counting.run 4).1.pressKey 5, (counting.run 4).2) ∧
    (counting.releaseKey 5).run 4 = ((counting.run 4).1.releaseKey 5, (counting.run 4).2) := by
  have timers : counting.RunAvoids 4 ["FX07", "FX15", "FX18"] := by decide +kernel
  have running : counting.waiting = false := by decide
  have keys : counting.RunAvoids 4 ["EX9E", "EXA1", "FX0A"] := by decide +kernel
  obtain ⟨ticks, moves⟩ := host_events_commute counting 4
  exact ⟨timers, ticks timers, running, keys, moves running keys 5⟩

end Machine

end Chip8
