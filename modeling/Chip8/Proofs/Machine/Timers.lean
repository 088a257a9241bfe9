import Chip8.Proofs.InstructionSet
import Chip8.Proofs.Machine.Gate
import Chip8.Proofs.Machine.Journal
import Mathlib.Data.List.Induction

/-!
The timers and the keys, told from what has happened to them. A timer shows what was last stored in
it, less the ticks since then (`Timer.shown`), and a key is down when the last event that named it put
it down. The main result states both after every history.
-/

namespace Chip8

open Machine Word

inductive Timer where
  | delay
  | sound

namespace Timer

def read : Timer → Periphery → UInt8
  | delay, periphery => periphery.delayTimer
  | sound, periphery => periphery.soundTimer

def pattern : Timer → String
  | delay => "FX15"
  | sound => "FX18"

def setting : Timer → Register → Instruction
  | delay => .setDelay
  | sound => .setSound

def stored? (timer : Timer) : Entry → Option UInt8
  | .executed word before _ =>
    if Matches timer.pattern word then some (before.registers.get (x word)) else none
  | .ticked | .restarted => none

/-- What a timer shows after a journal: the value stored last since the machine was restarted, less
the ticks since it was stored. -/
def shown (timer : Timer) (journal : List Entry) : Nat :=
  let recent := journal.takeWhile (!·.isRestart)
  let value := (recent.findSome? timer.stored?).getD 0
  let since := recent.takeWhile fun entry => (timer.stored? entry).isNone
  value.toNat - since.countP Entry.isTick

def noted (timer : Timer) : Entry → UInt8 → UInt8
  | .executed word before after, value => (timer.stored? (.executed word before after)).getD value
  | .ticked, value => if value = 0 then 0 else value - 1
  | .restarted, _ => 0

variable {word : UInt16}

theorem encodes_setting (timer : Timer) (form : Matches timer.pattern word) :
    Encodes word (timer.setting (x word)) := by
  cases timer with
  | delay => exact .setDelay form
  | sound => exact .setSound form

theorem matches_of_decode (timer : Timer) {y : Register}
    (decoded : Instruction.decode word = timer.setting y) : Matches timer.pattern word := by
  cases timer with
  | delay =>
    have encodes := (Instruction.decode_eq_iff Instruction.noConfusion).mp decoded
    cases encodes with
    | setDelay form => exact form
  | sound =>
    have encodes := (Instruction.decode_eq_iff Instruction.noConfusion).mp decoded
    cases encodes with
    | setSound form => exact form

theorem read_updated_setting (timer : Timer) (machine : Machine) (y : Register) :
    timer.read (machine.periphery.updated machine (timer.setting y)) = machine.registers.get y := by
  cases timer <;> rfl

theorem read_updated_of_ne (timer : Timer) (periphery : Periphery) (machine : Machine)
    {instruction : Instruction} (other : ∀ y, instruction ≠ timer.setting y) :
    timer.read (periphery.updated machine instruction) = timer.read periphery := by
  cases timer with
  | delay =>
    cases instruction with
    | setDelay y => exact absurd rfl (other y)
    | _ => rfl
  | sound =>
    cases instruction with
    | setSound y => exact absurd rfl (other y)
    | _ => rfl

theorem follows_noted (timer : Timer) : Follows timer.read timer.noted where
  executed word before after := by
    rw [noted, stored?]
    by_cases form : Matches timer.pattern word
    · rw [if_pos form, Instruction.decode_of_encodes (timer.encodes_setting form),
        read_updated_setting]
      rfl
    · rw [if_neg form]
      exact timer.read_updated_of_ne before.periphery before
        fun y decoded => form (timer.matches_of_decode decoded)
  ticked machine := by cases timer <;> rfl
  restarted periphery := by cases timer <;> rfl
  blind periphery _ _ _ := by cases timer <;> rfl

theorem shown_ticked (timer : Timer) (journal : List Entry) :
    timer.shown (.ticked :: journal) = timer.shown journal - 1 := by
  have silent : timer.stored? .ticked = none := rfl
  simp only [shown]
  rw [List.takeWhile_cons_of_pos rfl, List.findSome?_cons, silent, List.takeWhile_cons_of_pos rfl,
    List.countP_cons_of_pos rfl, Nat.sub_add_eq]

theorem shown_executed (timer : Timer) (word : UInt16) (before after : Machine)
    (journal : List Entry) :
    timer.shown (.executed word before after :: journal) =
      ((timer.stored? (.executed word before after)).map UInt8.toNat).getD
        (timer.shown journal) := by
  simp only [shown]
  rw [List.takeWhile_cons_of_pos rfl, List.findSome?_cons]
  cases stored : timer.stored? (.executed word before after) with
  | some value =>
    rw [List.takeWhile_cons_of_neg (by simp [stored])]
    rfl
  | none =>
    rw [List.takeWhile_cons_of_pos (by simp [stored]), List.countP_cons_of_neg Bool.false_ne_true]
    rfl

theorem toNat_ticked (value : UInt8) :
    (if value = 0 then 0 else value - 1).toNat = value.toNat - 1 := by
  split
  · rename_i zero
    rw [zero]
    rfl
  · rename_i positive
    have some : 1 ≤ value := by
      rw [UInt8.le_iff_toNat_le]
      exact Nat.pos_of_ne_zero fun zero => positive (UInt8.toNat_inj.mp zero)
    exact UInt8.toNat_sub_of_le value 1 some

/-- The entries of a journal bring a timer from zero to what it shows. -/
theorem foldr_noted (timer : Timer) (journal : List Entry) :
    (journal.foldr timer.noted 0).toNat = timer.shown journal := by
  -- The latest entry stands first, so the induction goes from the last restart to the present.
  induction journal with
  | nil => rfl
  | cons entry journal ih =>
    rw [List.foldr_cons]
    cases entry with
    | executed word before after =>
      rw [noted, shown_executed, ← ih]
      cases timer.stored? (.executed word before after) <;> rfl
    | ticked => rw [noted, toNat_ticked, ih, shown_ticked]
    | restarted => rfl

end Timer

namespace Machine

section Keys

variable {machine : Machine} {request : Request} {key : Fin 16}

theorem get_serve_of_moves (moved : request.moves key = true) :
    (machine.serve request).keypad.get key = true ↔ request = .press key.val := by
  cases request with
  | press number =>
    have named : number = key.val := of_decide_eq_true moved
    change (machine.keypad.put number true).get key = true ↔ _
    rw [Keypad.get_put, if_pos named, named]
    simp
  | release number =>
    have named : number = key.val := of_decide_eq_true moved
    change (machine.keypad.put number false).get key = true ↔ _
    rw [Keypad.get_put, if_pos named]
    simp
  | _ => exact Bool.noConfusion moved

theorem get_serve_of_still (still : request.moves key = false) :
    (machine.serve request).keypad.get key = machine.keypad.get key := by
  cases request with
  | load image =>
    by_cases fits : image.length ≤ programCapacity
    · rw [serve_load_of_le fits, copyImage, reset, powerOn_keypad]
    · rw [serve_load_of_lt (Nat.lt_of_not_le fits)]
  | reset => rw [serve, reset, powerOn_keypad]
  | execute word => rw [serve, execute_keypad]
  | step => rw [serve, step_keypad]
  | run cycles => rw [serve, run_keypad]
  | press number =>
    have other : number ≠ key.val := of_decide_eq_false still
    change (machine.keypad.put number true).get key = _
    rw [Keypad.get_put, if_neg other]
  | release number =>
    have other : number ≠ key.val := of_decide_eq_false still
    change (machine.keypad.put number false).get key = _
    rw [Keypad.get_put, if_neg other]
  | tick => rfl

/-- A key is down when the last request that moved it put it down. -/
theorem get_after_iff (rng : RandomKey) (variant : Variant) (history : List Request)
    (key : Fin 16) :
    ((create rng variant).after history).keypad.get key = true ↔
      (history.filter (·.moves key)).getLast? = some (.press key.val) := by
  -- The last request decides if it names the key, so the history is taken apart from its end.
  induction history using List.reverseRecOn with
  | nil =>
    rw [after_nil]
    change Keypad.released.get key = true ↔ _
    simp [Keypad.get_released]
  | append_singleton rest request ih =>
    have last : (create rng variant).after (rest ++ [request]) =
        ((create rng variant).after rest).serve request := List.foldl_append
    rw [last, List.filter_append]
    cases moved : request.moves key with
    | true =>
      rw [get_serve_of_moves moved, List.filter_cons_of_pos moved, List.filter_nil,
        List.getLast?_concat, Option.some_inj]
    | false =>
      rw [get_serve_of_still moved, List.filter_cons_of_neg (by simp [moved]), List.filter_nil,
        List.append_nil]
      exact ih

end Keys

theorem put_of_unnamed (machine : Machine) {number : Int} (unnamed : number < 0 ∨ 15 < number)
    (held : Bool) : { machine with keypad := machine.keypad.put number held } = machine := by
  have none : Keypad.key? number = none := dif_neg (by omega)
  rw [Keypad.put_of_key?_eq_none none]

theorem Executes.get_of_readDelay {before after : Machine} {word : UInt16}
    (executes : Executes before word after) (form : Matches "FX07" word) :
    after.registers.get (x word) = before.delayTimer := by
  have registers : after.registers = before.registers.set (x word) before.delayTimer := by
    have decoded := Instruction.decode_of_encodes (.readDelay form)
    rcases executes.registers with same | same <;> rw [same, decoded] <;> rfl
  rw [registers]
  exact Vector.getElem_set_self (x word).isLt

/-- The timers and the keypad are determined by what happened to each of them: a timer by the values
stored in it, the ticks and the restarts, and a key by the last event that named it. -/
theorem timers_and_keys_after (rng : RandomKey) (variant : Variant) (history : List Request) :
    let machine := (create rng variant).after history
    let journal := (create rng variant).journal history
    machine.delayTimer.toNat = Timer.delay.shown journal ∧
    machine.soundTimer.toNat = Timer.sound.shown journal ∧
    (∀ (later : List Entry) (word : UInt16) (before after : Machine) (earlier : List Entry),
      journal = later ++ .executed word before after :: earlier → Matches "FX07" word →
      (after.registers.get (x word)).toNat = Timer.delay.shown earlier) ∧
    (∀ key : Fin 16, machine.keypad.get key = true ↔
      (history.filter (·.moves key)).getLast? = some (.press key.val)) ∧
    (∀ number : Int, number < 0 ∨ 15 < number →
      machine.pressKey number = machine ∧ machine.releaseKey number = machine) := by
  intro machine journal
  have shown (timer : Timer) : (timer.read machine.periphery).toNat = timer.shown journal := by
    rw [timer.follows_noted.after, ← timer.foldr_noted]
    cases timer <;> rfl
  refine ⟨shown .delay, shown .sound, ?_, get_after_iff rng variant history, ?_⟩
  · intro later word before after earlier split form
    obtain ⟨executes, met⟩ := Timer.delay.follows_noted.shows_journal (create rng variant) history
      later word before after earlier split
    rw [executes.get_of_readDelay form, ← Timer.delay.foldr_noted]
    exact congrArg UInt8.toNat met
  · intro number unnamed
    exact ⟨machine.put_of_unnamed unnamed true, machine.put_of_unnamed unnamed false⟩

end Machine

end Chip8
