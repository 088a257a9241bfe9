import Chip8.Proofs.Machine.History
import Chip8.Proofs.Machine.Lockstep

/-!
The journal of a history, its latest entry first: every word that was executed, also those within a
run, and every tick and restart. A part of the periphery follows the journal when each entry does
something to it and nothing else touches it. The two inductions over a journal are `Follows.after`,
what such a part is after the history, and `Follows.shows_journal`, what it was when a word of the
history was executed.
-/

namespace Chip8.Machine

/-- What a journal notes. A word stands between the machines before and after it. -/
inductive Entry where
  | executed (word : UInt16) (before after : Machine)
  | ticked
  | restarted

def Entry.isTick : Entry → Bool
  | ticked => true
  | executed _ _ _ | restarted => false

def Entry.isRestart : Entry → Bool
  | restarted => true
  | executed _ _ _ | ticked => false

def stepEntries (machine : Machine) : List Entry :=
  if machine.fetched?.isSome then [.executed machine.nextWord machine machine.step] else []

def stepsEntries (machine : Machine) : Nat → List Entry
  | 0 => []
  | steps + 1 => (step^[steps] machine).stepEntries ++ machine.stepsEntries steps

/-- The entries of a request. A run notes the steps that it makes, and an image that is refused does
not restart the machine. -/
def entries (machine : Machine) : Request → List Entry
  | .load image => if image.length ≤ programCapacity then [.restarted] else []
  | .reset => [.restarted]
  | .execute word => [.executed word machine (machine.execute word)]
  | .step => machine.stepEntries
  | .run cycles => machine.stepsEntries (machine.stepsOf cycles)
  | .press _ | .release _ => []
  | .tick => [.ticked]

/-- The journal of a history. Each request puts its entries in front. -/
def journal (machine : Machine) : List Request → List Entry
  | [] => []
  | request :: rest => (machine.serve request).journal rest ++ machine.entries request

def Executes (before : Machine) (word : UInt16) (after : Machine) : Prop :=
  after = before.execute word ∨
    (before.fetched? = some (Instruction.decode word) ∧ after = before.step)

theorem entries_load (machine : Machine) (image : List UInt8) :
    machine.entries (.load image) =
      if image.length ≤ programCapacity then [.restarted] else [] := rfl

theorem fetched?_eq_decode {machine : Machine} (fetches : machine.fetched?.isSome = true) :
    machine.fetched? = some (Instruction.decode machine.nextWord) := by
  obtain ⟨instruction, fetched⟩ := Option.isSome_iff_exists.mp fetches
  rw [fetched, (fetched?_eq_some_iff.mp fetched).2.2]

theorem restoreIfFatal_registers (machine : Machine) (pc : UInt16) :
    (machine.restoreIfFatal pc).registers = machine.registers := by
  unfold restoreIfFatal
  split <;> rfl

theorem Executes.registers {before after : Machine} {word : UInt16}
    (executes : Executes before word after) :
    after.registers = (before.perform (Instruction.decode word)).1.registers ∨
      after.registers = (before.fetch.2.perform (Instruction.decode word)).1.registers := by
  rcases executes with rfl | ⟨fetched, rfl⟩
  · left
    rw [execute_eq]
    rfl
  · obtain ⟨running, inside, same⟩ := fetched?_eq_some_iff.mp fetched
    right
    rw [step_of_inside running inside, restoreIfFatal_registers, ← same, execute_eq]
    rfl

theorem reset_periphery (machine : Machine) :
    machine.reset.periphery =
      { machine.periphery with delayTimer := 0, soundTimer := 0, status := .ok, fault := 0 } := rfl

theorem copyImage_periphery (machine : Machine) (image : List UInt8) :
    (machine.copyImage image).periphery = machine.periphery := rfl

structure Follows {α : Type} (view : Periphery → α) (act : Entry → α → α) : Prop where
  executed : ∀ word before after,
    view (before.periphery.updated before (Instruction.decode word)) =
      act (.executed word before after) (view before.periphery)
  ticked : ∀ machine : Machine,
    view machine.tickTimers.periphery = act .ticked (view machine.periphery)
  restarted : ∀ periphery : Periphery,
    view { periphery with delayTimer := 0, soundTimer := 0 } = act .restarted (view periphery)
  -- Keys and reports have no entries, so the part must not look at them.
  blind : ∀ periphery : Periphery, ∀ keypad status fault,
    view { periphery with keypad, status, fault } = view periphery

/-- Each word of a journal was executed, and met the part of the periphery as the entries before it
leave it. -/
def Shows {α : Type} (view : Periphery → α) (act : Entry → α → α) (start : α)
    (journal : List Entry) : Prop :=
  ∀ (later : List Entry) (word : UInt16) (before after : Machine) (earlier : List Entry),
    journal = later ++ .executed word before after :: earlier →
    Executes before word after ∧ view before.periphery = earlier.foldr act start

section

variable {α : Type} {view : Periphery → α} {act : Entry → α → α}

theorem shows_nil (start : α) : Shows view act start [] := by
  intro later word before after earlier split
  simp at split

theorem shows_singleton {entry : Entry} {start : α}
    (met : ∀ word before after, entry = .executed word before after →
      Executes before word after ∧ view before.periphery = start) :
    Shows view act start [entry] := by
  intro later word before after earlier split
  cases later with
  | nil =>
    rw [List.nil_append, List.cons.injEq] at split
    rw [← split.2]
    exact met word before after split.1
  | cons first later => simp at split

theorem Shows.append {start : α} {later earlier : List Entry} (first : Shows view act start earlier)
    (second : Shows view act (earlier.foldr act start) later) :
    Shows view act start (later ++ earlier) := by
  intro later' word before after earlier' split
  -- The word lies within the earlier entries, at the head of them, or within the later ones.
  rcases List.append_eq_append_iff.mp split with ⟨rest, -, within⟩ | ⟨rest, within, same⟩
  · exact first rest word before after earlier' within
  · cases rest with
    | nil => exact first [] word before after earlier' same.symm
    | cons entry rest =>
      rw [List.cons_append, List.cons.injEq] at same
      obtain ⟨rfl, rfl⟩ := same
      rw [List.foldr_append]
      exact second later' word before after rest within

theorem shows_stepEntries (machine : Machine) :
    Shows view act (view machine.periphery) machine.stepEntries := by
  unfold stepEntries
  split
  · rename_i fetches
    apply shows_singleton
    rintro word before after same
    cases same
    exact ⟨.inr ⟨fetched?_eq_decode fetches, rfl⟩, rfl⟩
  · exact shows_nil _

namespace Follows

theorem execute (follows : Follows view act) (machine : Machine) (word : UInt16) :
    view (machine.execute word).periphery =
      act (.executed word machine (machine.execute word)) (view machine.periphery) := by
  rw [execute_periphery]
  exact (follows.blind _ _ _ _).trans (follows.executed word machine _)

theorem step (follows : Follows view act) (machine : Machine) :
    view machine.step.periphery = machine.stepEntries.foldr act (view machine.periphery) := by
  rw [step_periphery, Periphery.stepped, stepEntries]
  refine (follows.blind _ _ _ _).trans ?_
  cases fetches : machine.fetched?.isSome with
  | true =>
    rw [fetched?_eq_decode fetches]
    exact follows.executed machine.nextWord machine machine.step
  | false =>
    have none : machine.fetched? = none := by simpa using fetches
    rw [none]
    rfl

theorem iterate_step (follows : Follows view act) (machine : Machine) (steps : Nat) :
    view (Machine.step^[steps] machine).periphery =
      (machine.stepsEntries steps).foldr act (view machine.periphery) := by
  induction steps with
  | zero => rfl
  | succ steps ih =>
    rw [Function.iterate_succ_apply', follows.step, ih, stepsEntries, List.foldr_append]

theorem reset (follows : Follows view act) (machine : Machine) :
    view machine.reset.periphery = act .restarted (view machine.periphery) := by
  rw [reset_periphery]
  exact (follows.blind _ machine.keypad _ _).trans (follows.restarted machine.periphery)

theorem serve (follows : Follows view act) (machine : Machine) (request : Request) :
    view (machine.serve request).periphery =
      (machine.entries request).foldr act (view machine.periphery) := by
  cases request with
  | load image =>
    by_cases fits : image.length ≤ programCapacity
    · rw [serve_load_of_le fits, copyImage_periphery, follows.reset, entries_load, if_pos fits]
      rfl
    · rw [serve_load_of_lt (Nat.lt_of_not_le fits), entries_load, if_neg fits]
      rfl
  | reset => exact follows.reset machine
  | execute word => exact follows.execute machine word
  | step => exact follows.step machine
  | run cycles =>
    rw [Machine.serve, run_eq_reported]
    exact (follows.blind _ _ _ _).trans (follows.iterate_step machine _)
  | press key => exact follows.blind machine.periphery _ _ _
  | release key => exact follows.blind machine.periphery _ _ _
  | tick => exact follows.ticked machine

theorem after (follows : Follows view act) (machine : Machine) (history : List Request) :
    view (machine.after history).periphery =
      (machine.journal history).foldr act (view machine.periphery) := by
  induction history generalizing machine with
  | nil => rfl
  | cons request rest ih => rw [after_cons, ih, follows.serve, journal, List.foldr_append]

theorem shows_stepsEntries (follows : Follows view act) (machine : Machine) (steps : Nat) :
    Shows view act (view machine.periphery) (machine.stepsEntries steps) := by
  induction steps with
  | zero => exact shows_nil _
  | succ steps ih =>
    refine ih.append ?_
    rw [← follows.iterate_step]
    exact shows_stepEntries _

theorem shows_entries (follows : Follows view act) (machine : Machine) (request : Request) :
    Shows view act (view machine.periphery) (machine.entries request) := by
  cases request with
  | load image =>
    rw [entries_load]
    split
    · exact shows_singleton fun _ _ _ same => by cases same
    · exact shows_nil _
  | reset => exact shows_singleton fun _ _ _ same => by cases same
  | execute word =>
    apply shows_singleton
    rintro word before after same
    cases same
    exact ⟨.inl rfl, rfl⟩
  | step => exact shows_stepEntries machine
  | run cycles => exact follows.shows_stepsEntries machine _
  | press key => exact shows_nil _
  | release key => exact shows_nil _
  | tick => exact shows_singleton fun _ _ _ same => by cases same

/-- The journal of a history tells what the part of the periphery was whenever a word was executed.
-/
theorem shows_journal (follows : Follows view act) (machine : Machine) (history : List Request) :
    Shows view act (view machine.periphery) (machine.journal history) := by
  induction history generalizing machine with
  | nil => exact shows_nil _
  | cons request rest ih =>
    refine (follows.shows_entries machine request).append ?_
    rw [← follows.serve]
    exact ih _

end Follows

end

end Chip8.Machine
