import Chip8.Proofs.Keypad
import Chip8.Proofs.Machine.History
import Chip8.Proofs.Machine.Raises
import Chip8.Proofs.Machine.Run

/-!
A pending key wait among the requests of a host. Time may pass and keys may come and go; as long as
no step finds a key held down, the machine is suspended (`after_of_unanswered`). The step that finds
one completes the wait with it, and `gate_answered_once` puts the two together.
-/

namespace Chip8.Machine

namespace Request

/-- What may happen while a program runs: no request that replaces the program, and no word executed
by hand. -/
def isEvent : Request → Bool
  | .step | .run _ | .press _ | .release _ | .tick => true
  | .load _ | .reset | .execute _ => false

def polls : Request → Bool
  | .step => true
  | .run cycles => 0 < cycles
  | _ => false

def moves (key : Fin 16) : Request → Bool
  | .press number | .release number => number = key.val
  | _ => false

end Request

/-- Every step and every run with a cycle takes place when no key is held. -/
def Unanswered : Machine → List Request → Prop
  | _, [] => True
  | machine, request :: rest =>
    (request.polls = true → ∀ key, machine.keypad.get key = false) ∧
      (machine.serve request).Unanswered rest

variable {machine : Machine} {history : List Request} {request : Request}

theorem run_of_released (waiting : machine.waiting = true)
    (released : machine.keypad.lowest? = none) {cycles : Int} (some : 1 ≤ cycles) :
    machine.run cycles = (machine.step, 0) := by
  have stopped : machine.step.status.consumed = false := by
    rw [step_of_released waiting released]
    rfl
  rw [run_toNat]
  exact run_of_stopped (completes_zero machine) (show 0 < cycles.toNat by omega) stopped

/-- What a pending wait holds: everything but the keypad, the timers and the report. -/
def Suspended (machine now : Machine) : Prop :=
  ∃ keypad delayTimer soundTimer status fault,
    now = { machine with keypad, delayTimer, soundTimer, status, fault }

theorem Suspended.eq {now : Machine} (suspended : Suspended machine now) :
    now = { machine with
      keypad := now.keypad, delayTimer := now.delayTimer, soundTimer := now.soundTimer
      status := now.status, fault := now.fault } := by
  obtain ⟨_, _, _, _, _, rfl⟩ := suspended
  rfl

theorem Suspended.trans {middle now : Machine} (first : Suspended machine middle)
    (second : Suspended middle now) : Suspended machine now := by
  obtain ⟨_, _, _, _, _, rfl⟩ := first
  obtain ⟨_, _, _, _, _, rfl⟩ := second
  exact ⟨_, _, _, _, _, rfl⟩

theorem suspended_serve (waiting : machine.waiting = true) (event : request.isEvent = true)
    (unanswered : request.polls = true → ∀ key, machine.keypad.get key = false) :
    Suspended machine (machine.serve request) := by
  have suspended_step (released : ∀ key, machine.keypad.get key = false) :
      Suspended machine machine.step := by
    rw [step_of_released waiting (Keypad.lowest?_eq_none_iff.mpr released)]
    exact ⟨_, _, _, _, _, rfl⟩
  cases request with
  | load image => cases event
  | reset => cases event
  | execute word => cases event
  | step => exact suspended_step (unanswered rfl)
  | run cycles =>
    rw [serve]
    by_cases some : 0 < cycles
    · have released := unanswered (decide_eq_true some)
      rw [run_of_released waiting (Keypad.lowest?_eq_none_iff.mpr released) some]
      exact suspended_step released
    · rw [run_of_nonpos (Int.not_lt.mp some)]
      exact ⟨_, _, _, _, _, rfl⟩
  | press key => exact ⟨_, _, _, _, _, rfl⟩
  | release key => exact ⟨_, _, _, _, _, rfl⟩
  | tick => exact ⟨_, _, _, _, _, rfl⟩

theorem after_of_unanswered (waiting : machine.waiting = true)
    (events : ∀ request ∈ history, request.isEvent = true)
    (unanswered : machine.Unanswered history) : Suspended machine (machine.after history) := by
  induction history generalizing machine with
  | nil => exact ⟨_, _, _, _, _, rfl⟩
  | cons request rest ih =>
    have first := suspended_serve waiting (events request List.mem_cons_self) unanswered.1
    -- The gate is among what the first request left alone, so the rest meets the same wait.
    have waits : (machine.serve request).waiting = true := by
      obtain ⟨_, _, _, _, _, served⟩ := first
      rw [served]
      exact waiting
    exact first.trans
      (ih waits (fun later member => events later (List.mem_cons_of_mem request member)) unanswered.2)

section Between

/-- The same machine, but for a key that the second one takes to be up. -/
def SameBut (key : Fin 16) (full reduced : Machine) : Prop :=
  ∃ keypad : Keypad, reduced = { full with keypad } ∧ keypad.get key = false ∧
    ∀ other ≠ key, keypad.get other = full.keypad.get other

variable {key : Fin 16} {full reduced : Machine}

theorem SameBut.put (same : SameBut key full reduced) (number : Int) (held : Bool) :
    SameBut key { full with keypad := full.keypad.put number held }
      (if number = key.val then reduced
        else { reduced with keypad := reduced.keypad.put number held }) := by
  obtain ⟨keypad, rfl, released, rest⟩ := same
  split
  · rename_i moved
    refine ⟨keypad, rfl, released, ?_⟩
    intro other apart
    have unmoved : number ≠ other.val := by
      rw [moved, Ne, Int.natCast_inj, ← Fin.ext_iff]
      exact apart.symm
    rw [Keypad.get_put, if_neg unmoved, rest other apart]
  · rename_i unmoved
    refine ⟨keypad.put number held, rfl, ?_, ?_⟩
    · rw [Keypad.get_put, if_neg unmoved, released]
    · intro other apart
      rw [Keypad.get_put, Keypad.get_put, rest other apart]

/-- Between two polls a request does the same whether or not the key was moved. -/
theorem SameBut.serve (same : SameBut key full reduced) (event : request.isEvent = true)
    (quiet : request.polls = false) :
    SameBut key (full.serve request)
      (if request.moves key then reduced else reduced.serve request) := by
  cases request with
  | load image => cases event
  | reset => cases event
  | execute word => cases event
  | step => cases quiet
  | run cycles =>
    obtain ⟨keypad, rfl, released, rest⟩ := same
    have none : cycles ≤ 0 := Int.not_lt.mp (of_decide_eq_false quiet)
    rw [Machine.serve, run_of_nonpos none]
    refine ⟨keypad, ?_, released, rest⟩
    exact congrArg Prod.fst (run_of_nonpos none)
  | press number =>
    simp only [Request.moves, decide_eq_true_eq]
    exact same.put number true
  | release number =>
    simp only [Request.moves, decide_eq_true_eq]
    exact same.put number false
  | tick =>
    obtain ⟨keypad, rfl, released, rest⟩ := same
    exact ⟨keypad, rfl, released, rest⟩

theorem SameBut.after (same : SameBut key full reduced) {between : List Request}
    (quiet : ∀ request ∈ between, request.isEvent = true ∧ request.polls = false) :
    SameBut key (full.after between) (reduced.after (between.filter (!·.moves key))) := by
  induction between generalizing full reduced with
  | nil => exact same
  | cons request rest ih =>
    obtain ⟨event, still⟩ := quiet request List.mem_cons_self
    have later := ih (same.serve event still)
      (fun later member => quiet later (List.mem_cons_of_mem request member))
    by_cases moved : request.moves key = true
    · rw [if_pos moved] at later
      simpa only [List.filter_cons, moved, Bool.not_true, Bool.false_eq_true, if_false,
        after_cons] using later
    · rw [if_neg moved] at later
      simpa only [List.filter_cons, moved, Bool.not_false, if_true, after_cons] using later

/-- A key that is up before and after had no effect in between. -/
theorem after_filter_moves {between : List Request}
    (quiet : ∀ request ∈ between, request.isEvent = true ∧ request.polls = false)
    (before : machine.keypad.get key = false)
    (afterwards : (machine.after between).keypad.get key = false) :
    machine.after between = machine.after (between.filter (!·.moves key)) := by
  have same : SameBut key machine machine := ⟨_, rfl, before, fun _ _ => rfl⟩
  obtain ⟨keypad, reduced, released, rest⟩ := same.after quiet
  have keys : keypad = (machine.after between).keypad := by
    apply Keypad.ext_get
    intro other
    by_cases moved : other = key
    · rw [moved, released, afterwards]
    · exact rest other moved
  rw [reduced, keys]

end Between

section Answered

open Word

variable {now before : Machine} {key : Fin 16} {x : Register} {word : UInt16}

theorem step_of_answered (waiting : machine.waiting = true)
    (register : machine.waitRegister.toNat = x.val) (held : machine.keypad.lowest? = some key) :
    machine.step =
      { machine.setRegister x (UInt8.ofNat key) with waiting := false, status := .ok } := by
  rw [step_of_held waiting held, receiveKey, register, Table.write_of_lt _ _ x.isLt]
  rfl

def Awaits (machine : Machine) (x : Register) : Prop :=
  (machine.waiting = true ∧ machine.waitRegister.toNat = x.val) ∨
    machine.fetched? = some (.awaitKey x)

theorem Awaits.exists_key (awaits : machine.Awaits x) (completed : machine.step.waiting = false) :
    ∃ key, machine.keypad.lowest? = some key ∧
      machine.step.registers = (machine.setRegister x (UInt8.ofNat key)).registers := by
  cases lowest : machine.keypad.lowest? with
  | some key =>
    refine ⟨key, rfl, ?_⟩
    rcases awaits with ⟨waiting, register⟩ | fetched
    · rw [step_of_answered waiting register lowest]
    · rw [step_of_awaitKey_of_held fetched lowest]
  | none =>
    have waits : machine.step.waiting = true := by
      rcases awaits with ⟨waiting, -⟩ | fetched
      · rw [step_of_released waiting lowest]
        exact waiting
      · rw [step_of_awaitKey_of_released fetched lowest]
    exact absurd (completed.symm.trans waits) Bool.false_ne_true

theorem execute_of_held (form : Matches "FX0A" word) (held : machine.keypad.lowest? = some key) :
    machine.execute word =
      { machine.setRegister (Word.x word) (UInt8.ofNat key) with
        waiting := false, waitRegister := UInt8.ofNat (Word.x word), status := .ok } := by
  have clean : machine.outcome (.awaitKey (Word.x word)) = .ok := by
    rw [outcome, held]
    rfl
  rw [execute_eq, Instruction.decode_of_encodes (.awaitKey form), perform_snd, clean,
    perform_awaitKey_of_held held]
  rfl

def carrying (machine now : Machine) : Machine :=
  { machine with
    keypad := now.keypad, delayTimer := now.delayTimer, soundTimer := now.soundTimer }

/-- A wait completed later does what the key wait does at once when the key is held already. -/
theorem step_eq_execute_of_suspended (form : Matches "FX0A" word)
    (released : before.keypad.lowest? = none) (suspended : Suspended (before.execute word) now)
    (held : now.keypad.lowest? = some key) :
    now.step = { (before.carrying now).execute word with fault := now.step.fault } := by
  have halts : before.outcome (Instruction.decode word) = .inputHalt := by
    rw [outcome_eq_inputHalt_iff, Instruction.decode_of_encodes (.awaitKey form)]
    exact ⟨⟨_, rfl⟩, released⟩
  have register : (UInt8.ofNat (Word.x word).val).toNat = (Word.x word).val :=
    Nat.mod_eq_of_lt (show (Word.x word).val < 2 ^ 8 by omega)
  have executed : (before.carrying now).execute word = _ := execute_of_held form held
  rw [execute_of_released halts] at suspended
  obtain ⟨keypad, delayTimer, soundTimer, status, fault, rfl⟩ := suspended
  rw [executed, step_of_answered rfl register held]
  rfl

end Answered

/-- A pending wait is completed once, by the first poll that finds a key, and with the lowest key
held down at that moment. The polls before it change nothing, and neither does a key that goes down
and up between two polls. The poll that completes the wait reads neither the memory nor pc, and it
does what the key wait would have done at once. -/
theorem gate_answered_once (waiting : machine.waiting = true) (register : machine.waitRegister ≤ 15)
    (events : ∀ request ∈ history, request.isEvent = true)
    (unanswered : machine.Unanswered history) :
    let now := machine.after history
    (now.waiting = true ∧
      now = { machine with
        keypad := now.keypad, delayTimer := now.delayTimer, soundTimer := now.soundTimer
        status := now.status, fault := now.fault }) ∧
    ((∀ key, now.keypad.get key = false) →
      now.step.status = .inputHalt ∧ ∀ cycles, 1 ≤ cycles → now.run cycles = (now.step, 0)) ∧
    ((∃ key, now.keypad.get key = true) →
      ∃ key x : Fin 16, now.keypad.get key = true ∧
        (∀ lower < key, now.keypad.get lower = false) ∧
        x.val = machine.waitRegister.toNat ∧
        now.step =
          { now.setRegister x (UInt8.ofNat key) with waiting := false, status := .ok } ∧
        (∀ cycles : Nat, now.run (cycles + 1 : Nat) =
          ((now.step.run cycles).1, (now.step.run cycles).2 + 1)) ∧
        ∀ memory pc, { now with memory, pc }.step = { now.step with memory, pc }) ∧
    (∀ (key : Fin 16) (between : List Request),
      (∀ request ∈ between, request.isEvent = true ∧ request.polls = false) →
      now.keypad.get key = false → (now.after between).keypad.get key = false →
      now.after between = now.after (between.filter (!·.moves key))) ∧
    (∀ (before : Machine) (word : UInt16), Word.Matches "FX0A" word →
      (∀ key, before.keypad.get key = false) → machine = before.execute word →
      (∃ key, now.keypad.get key = true) →
      now.step = { (before.carrying now).execute word with fault := now.step.fault }) := by
  intro now
  have suspended : Suspended machine now := after_of_unanswered waiting events unanswered
  have same := suspended.eq
  have waits : now.waiting = true := by rw [same]; exact waiting
  refine ⟨⟨waits, same⟩, ?_, ?_, ?_, ?_⟩
  · intro up
    have released := Keypad.lowest?_eq_none_iff.mpr up
    refine ⟨?_, fun cycles some => run_of_released waits released some⟩
    rw [step_of_released waits released]
    rfl
  · rintro ⟨key, down⟩
    obtain ⟨lowest, held⟩ := Keypad.exists_lowest? down
    obtain ⟨here, lower⟩ := Keypad.lowest?_eq_some_iff.mp held
    rw [UInt8.le_iff_toNat_le] at register
    let x : Fin 16 := ⟨machine.waitRegister.toNat, Nat.lt_succ_of_le register⟩
    have place : now.waitRegister.toNat = x.val := by rw [same]
    have stepped := step_of_answered waits place held
    refine ⟨lowest, x, here, lower, rfl, stepped, ?_, ?_⟩
    · exact run_succ_of_ok (by rw [stepped])
    · intro memory pc
      rw [stepped]
      have elsewhere : { now with memory, pc }.waiting = true := waits
      exact step_of_answered elsewhere place held
  · intro key between quiet before afterwards
    exact after_filter_moves quiet before afterwards
  · rintro before word form up entered ⟨key, down⟩
    obtain ⟨lowest, held⟩ := Keypad.exists_lowest? down
    exact step_eq_execute_of_suspended form (Keypad.lowest?_eq_none_iff.mpr up)
      (entered ▸ suspended) held

def waitingForKey : Machine := (create ⟨0, 0⟩ {}).execute 0xF30A

def keyTaps : List Request := [.press 7, .release 7, .step, .tick, .press 9, .press 4]

theorem unanswered_keyTaps : waitingForKey.Unanswered keyTaps := by
  have released : ∀ key, ((waitingForKey.pressKey 7).releaseKey 7).keypad.get key = false := by
    decide
  simp only [keyTaps, Unanswered, Request.polls, Bool.false_eq_true, false_imp_iff, true_imp_iff,
    true_and, and_true]
  exact released

theorem keypad_keyTaps : (waitingForKey.after keyTaps).keypad.get 4 = true := by
  have released : ((waitingForKey.pressKey 7).releaseKey 7).keypad.lowest? = none := by decide
  have waits : ((waitingForKey.pressKey 7).releaseKey 7).waiting = true := by decide
  have polled := step_of_released waits released
  simp only [keyTaps, after_cons, after_nil, serve, polled]
  decide

/-- The poll after the taps takes the lower one of the two keys. -/
theorem gate_answered_once_keyTaps :
    ∃ now, now = waitingForKey.after keyTaps ∧ waitingForKey.waiting = true ∧
      waitingForKey.waitRegister ≤ 15 ∧ (∀ request ∈ keyTaps, request.isEvent = true) ∧
      waitingForKey.Unanswered keyTaps ∧ now.keypad.get 4 = true ∧
      ∃ key x : Fin 16, now.keypad.get key = true ∧
        (∀ lower < key, now.keypad.get lower = false) ∧
        x.val = waitingForKey.waitRegister.toNat ∧
        now.step =
          { now.setRegister x (UInt8.ofNat key) with waiting := false, status := .ok } := by
  have waiting : waitingForKey.waiting = true := by decide
  have register : waitingForKey.waitRegister ≤ 15 := by decide
  have events : ∀ request ∈ keyTaps, request.isEvent = true := by simp [keyTaps, Request.isEvent]
  have down := keypad_keyTaps
  obtain ⟨-, -, answers, -⟩ := gate_answered_once waiting register events unanswered_keyTaps
  obtain ⟨key, x, held, lower, place, stepped, -⟩ := answers ⟨4, down⟩
  exact ⟨_, rfl, waiting, register, events, unanswered_keyTaps, down, key, x, held, lower, place,
    stepped⟩

end Chip8.Machine
