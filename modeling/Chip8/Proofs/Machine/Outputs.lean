import Chip8.Proofs.Machine.History
import Chip8.Proofs.Machine.Lockstep

/-!
The outputs of a machine: the sound timer, the status and the word on record. Two machines that differ
in them alone are alike, and every request keeps them alike, since none of them bears on what a machine
does. The main result follows two such machines through a history.
-/

namespace Chip8

open Machine

namespace Periphery

structure Alike (first second : Periphery) : Prop where
  rng : second.rng = first.rng
  delayTimer : second.delayTimer = first.delayTimer
  keypad : second.keypad = first.keypad
  variant : second.variant = first.variant

namespace Alike

variable {first second : Periphery} {machine : Machine}

theorem withReports (alike : Alike first second) (status status' : Status) (fault fault' : UInt16) :
    Alike { first with status, fault } { second with status := status', fault := fault' } :=
  ⟨alike.rng, alike.delayTimer, alike.keypad, alike.variant⟩

theorem updated (alike : Alike first second) (machine : Machine) (instruction : Instruction) :
    Alike (first.updated machine instruction) (second.updated machine instruction) := by
  obtain ⟨rng, delayTimer, keypad, variant⟩ := alike
  cases instruction with
  | random x mask => exact ⟨congrArg RandomKey.next rng, delayTimer, keypad, variant⟩
  | setDelay x => exact ⟨rng, rfl, keypad, variant⟩
  | setSound x => exact ⟨rng, delayTimer, keypad, variant⟩
  | _ => exact ⟨rng, delayTimer, keypad, variant⟩

theorem executed (alike : Alike first second) (machine : Machine) (word : UInt16) :
    Alike (first.executed machine word) (second.executed machine word) :=
  (alike.updated machine (Instruction.decode word)).withReports _ _ _ _

theorem stepped (alike : Alike first second) (machine : Machine) :
    Alike (first.stepped machine) (second.stepped machine) := by
  rw [Periphery.stepped, Periphery.stepped]
  cases machine.fetched? with
  | none => exact alike.withReports _ _ _ _
  | some instruction => exact (alike.updated machine instruction).withReports _ _ _ _

end Alike

end Periphery

namespace Machine

def Alike (machine other : Machine) : Prop :=
  ∃ soundTimer status fault, other = { machine with soundTimer, status, fault }

variable {machine other : Machine}

theorem alike_fitted {periphery : Periphery} (alike : machine.periphery.Alike periphery) :
    machine.Alike (machine.fitted periphery) := by
  obtain ⟨rng, delayTimer, keypad, variant⟩ := alike
  refine ⟨periphery.soundTimer, periphery.status, periphery.fault, ?_⟩
  rw [fitted, rng, delayTimer, keypad, variant]
  rfl

theorem Alike.exists_periphery (alike : machine.Alike other) :
    ∃ periphery, machine.periphery.Alike periphery ∧ other = machine.fitted periphery := by
  obtain ⟨soundTimer, status, fault, rfl⟩ := alike
  exact ⟨{ machine.periphery with soundTimer, status, fault }, ⟨rfl, rfl, rfl, rfl⟩, rfl⟩

theorem overlooks_of_alike {periphery : Periphery} (alike : machine.periphery.Alike periphery)
    (instruction : Instruction) : machine.Overlooks periphery instruction :=
  overlooks_of_eq alike.rng alike.delayTimer alike.keypad alike.variant instruction

theorem ignores_of_alike {periphery : Periphery} (alike : machine.periphery.Alike periphery) :
    machine.Ignores periphery :=
  ignores_of_eq alike.rng alike.delayTimer alike.keypad alike.variant

namespace Alike

theorem execute (alike : machine.Alike other) (word : UInt16) :
    (machine.execute word).Alike (other.execute word) ∧
      SameReport (machine.execute word) (other.execute word) := by
  obtain ⟨periphery, same, rfl⟩ := alike.exists_periphery
  have executed := execute_periphery machine word
  rw [execute_fitted (overlooks_of_alike same _)]
  refine ⟨alike_fitted (executed ▸ same.executed machine word), rfl, ?_⟩
  intro unclean
  calc
    _ = word := if_neg unclean
    _ = (machine.periphery.executed machine word).fault := (if_neg unclean).symm
    _ = (machine.execute word).fault := by rw [← executed]; rfl

theorem step (alike : machine.Alike other) :
    machine.step.Alike other.step ∧ SameReport machine.step other.step := by
  obtain ⟨periphery, same, rfl⟩ := alike.exists_periphery
  have stepped := step_periphery machine
  rw [step_fitted (ignores_of_alike same)]
  exact ⟨alike_fitted (stepped ▸ same.stepped machine), rfl, fun unclean => if_neg unclean⟩

theorem run (alike : machine.Alike other) (cycles : Int) :
    (machine.run cycles).1.Alike (other.run cycles).1 ∧
      (other.run cycles).2 = (machine.run cycles).2 ∧
      SameReport (machine.run cycles).1 (other.run cycles).1 := by
  obtain ⟨periphery, same, rfl⟩ := alike.exists_periphery
  have kept : ∀ i < machine.stepsOf cycles, ∀ second,
      (Machine.step^[i] machine).periphery.Alike second →
      (Machine.step^[i] machine).step.periphery.Alike
        (second.stepped (Machine.step^[i] machine)) := by
    intro i _ second same
    rw [step_periphery]
    exact same.stepped _
  obtain ⟨ran, reached⟩ := run_fitted_of_kept (fun _ _ _ same => ignores_of_alike same) kept same
  rw [ran]
  refine ⟨alike_fitted ?_, rfl, rfl, fun unclean => if_neg unclean⟩
  rw [run_eq_reported]
  exact reached.withReports _ _ _ _

theorem serve (alike : machine.Alike other) (request : Request) :
    (machine.serve request).Alike (other.serve request) := by
  cases request with
  | execute word => exact (alike.execute word).1
  | step => exact alike.step.1
  | run cycles => exact (alike.run cycles).1
  | load image =>
    obtain ⟨soundTimer, status, fault, rfl⟩ := alike
    by_cases fits : image.length ≤ programCapacity
    · rw [serve_load_of_le fits, serve_load_of_le fits]
      exact ⟨0, .ok, 0, rfl⟩
    · rw [serve_load_of_lt (Nat.lt_of_not_le fits), serve_load_of_lt (Nat.lt_of_not_le fits)]
      exact ⟨soundTimer, status, fault, rfl⟩
  | _ =>
    obtain ⟨soundTimer, status, fault, rfl⟩ := alike
    exact ⟨_, _, _, rfl⟩

theorem after (alike : machine.Alike other) (history : List Request) :
    (machine.after history).Alike (other.after history) := by
  induction history generalizing machine other with
  | nil => exact alike
  | cons request rest ih => exact ih (alike.serve request)

end Alike

/-- The sound timer, the status and the word on record are outputs. Machines that differ in nothing
else go on doing the same, and report the same of every word, step and run. -/
theorem outputs_unread (machine : Machine) (soundTimer : UInt8) (status : Status) (fault : UInt16)
    (history : List Request) :
    let now := machine.after history
    let other := ({ machine with soundTimer, status, fault } : Machine).after history
    other = { now with
      soundTimer := other.soundTimer, status := other.status, fault := other.fault } ∧
    (∀ word, SameReport (now.execute word) (other.execute word)) ∧
    SameReport now.step other.step ∧
    ∀ cycles, (other.run cycles).2 = (now.run cycles).2 ∧
      SameReport (now.run cycles).1 (other.run cycles).1 := by
  intro now other
  have alike : now.Alike other := Alike.after ⟨soundTimer, status, fault, rfl⟩ history
  refine ⟨?_, fun word => (alike.execute word).2, alike.step.2, fun cycles => (alike.run cycles).2⟩
  obtain ⟨soundTimer, status, fault, same⟩ := alike
  rw [same]

end Machine

end Chip8
