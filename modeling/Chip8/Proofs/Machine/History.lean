import Chip8.Proofs.Machine.Step

/-!
Histories of a machine. A host serves it one request after another, starting from power-on, and
`after_of_kept` is the induction over such a history; `run_of_kept` is the one over a batch.
-/

namespace Chip8.Machine

inductive Request where
  | load (image : List UInt8)
  | reset
  | execute (word : UInt16)
  | step
  | run (cycles : Int)
  | press (key : Int)
  | release (key : Int)
  | tick

/-- The machine after a request. An image that is too large is refused. -/
def serve (machine : Machine) : Request → Machine
  | .load image =>
    match machine.load image with
    | .ok loaded => loaded
    | .error _ => machine
  | .reset => machine.reset
  | .execute word => machine.execute word
  | .step => machine.step
  | .run cycles => (machine.run cycles).1
  | .press key => machine.pressKey key
  | .release key => machine.releaseKey key
  | .tick => machine.tickTimers

theorem serve_step (machine : Machine) : machine.serve .step = machine.step := rfl

theorem serve_load_of_le {machine : Machine} {image : List UInt8}
    (fits : image.length ≤ programCapacity) :
    machine.serve (.load image) = machine.reset.copyImage image := by
  rw [serve, load_of_le fits]

theorem serve_load_of_lt {machine : Machine} {image : List UInt8}
    (large : programCapacity < image.length) : machine.serve (.load image) = machine := by
  rw [serve, load_of_lt large]

def after (machine : Machine) (history : List Request) : Machine := history.foldl serve machine

@[simp] theorem after_nil (machine : Machine) : machine.after [] = machine := rfl

@[simp] theorem after_cons (machine : Machine) (request : Request) (rest : List Request) :
    machine.after (request :: rest) = (machine.serve request).after rest := rfl

section Kept

variable {Good : Machine → Prop} {machine : Machine}

/-- What every request of a history keeps holds after the history. -/
theorem after_of_kept {history : List Request}
    (kept : ∀ machine, ∀ request ∈ history, Good machine → Good (serve machine request))
    (good : Good machine) : Good (machine.after history) := by
  induction history generalizing machine with
  | nil => exact good
  | cons request rest ih =>
    apply ih
    · intro machine later member
      exact kept machine later (List.mem_cons_of_mem request member)
    · exact kept machine request List.mem_cons_self good

theorem Batch.advance_of_kept (kept : ∀ machine, Good machine → Good machine.step) {batch : Batch}
    (good : Good batch.machine) (cycles : Nat) : Good (batch.advance cycles).machine := by
  induction cycles generalizing batch with
  | zero => exact good
  | succ cycles ih =>
    rw [Batch.advance]
    split
    · exact ih (kept batch.machine good)
    · exact good

theorem Batch.result_of_kept (kept : ∀ machine status fault, status = .ok ∨ status = .noOp →
      Good machine → Good (machine.reported status fault))
    {batch : Batch} (good : Good batch.machine) : Good batch.result := by
  unfold Batch.result
  split
  · cases batch.unknownWord? with
    | some word => exact kept batch.machine .noOp word (.inr rfl) good
    | none => exact kept batch.machine .ok batch.machine.fault (.inl rfl) good
  · exact good

/-- What every step keeps, and also the report that a batch writes, holds after every batch. -/
theorem run_of_kept (stepped : ∀ machine, Good machine → Good machine.step)
    (recorded : ∀ machine status fault, status = .ok ∨ status = .noOp → Good machine →
      Good (machine.reported status fault))
    (good : Good machine) (cycles : Int) : Good (machine.run cycles).1 := by
  have start : Good (Batch.start machine).machine :=
    recorded machine .ok machine.fault (.inl rfl) good
  exact Batch.result_of_kept recorded (Batch.advance_of_kept stepped start cycles.toNat)

end Kept

theorem run_keypad (machine : Machine) (cycles : Int) :
    (machine.run cycles).1.keypad = machine.keypad := by
  apply @run_of_kept fun now => now.keypad = machine.keypad
  · intro now same
    rw [step_keypad, same]
  · intro now _ _ _ same
    exact same
  · rfl

end Chip8.Machine
