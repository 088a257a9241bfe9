import Chip8.Proofs.Machine.Report

/-!
What a step can do. `step_cases` lists it: a waiting machine receives a key or goes on waiting, and a
running one performs the instruction at pc, fails at it, or stands outside the memory. From it follow
the laws of a step that stops a batch: a fatal step changes nothing but the report, and any further
step from there reports the same again. `step_fitted` says how far a step depends on the periphery.
-/

namespace Chip8

namespace Machine

/-- The instruction that the next step performs, if it performs one. -/
def fetched? (machine : Machine) : Option Instruction :=
  if machine.waiting = false ∧ machine.pc.toNat ≤ lastInstruction then
    some (Instruction.decode machine.nextWord)
  else none

def waitWord (machine : Machine) : UInt16 :=
  (0xF00A : UInt16) ||| (machine.waitRegister.toUInt16 <<< 8)

variable {machine : Machine} {instruction : Instruction}

theorem step_of_held {key : Fin 16} (waiting : machine.waiting = true)
    (held : machine.keypad.lowest? = some key) :
    machine.step = (machine.receiveKey key).reported .ok machine.fault := by
  simp only [step, if_pos waiting, resolveWait, held]
  rfl

theorem step_of_released (waiting : machine.waiting = true)
    (released : machine.keypad.lowest? = none) :
    machine.step = machine.reported .inputHalt machine.waitWord := by
  simp only [step, if_pos waiting, resolveWait, released]
  rfl

theorem step_of_outside (running : machine.waiting = false)
    (outside : lastInstruction < machine.pc.toNat) :
    machine.step = machine.reported .invalidAddress machine.pc := by
  have unwaiting : ¬ machine.waiting = true := by simp [running]
  have unfit : ¬ machine.pc.toNat ≤ lastInstruction := by omega
  simp only [step, if_neg unwaiting, if_neg unfit]
  rfl

theorem fetched?_eq_some_iff :
    machine.fetched? = some instruction ↔
      machine.waiting = false ∧ machine.pc.toNat ≤ lastInstruction ∧
        Instruction.decode machine.nextWord = instruction := by
  unfold fetched?
  split <;> rename_i fetches <;> grind

theorem pc_add_one_of_inside (machine : Machine) (inside : machine.pc.toNat + 1 < 4096) :
    (machine.pc + 1).toNat = machine.pc.toNat + 1 := by
  rw [UInt16.toNat_add]
  exact Nat.mod_eq_of_lt (show machine.pc.toNat + 1 < 2 ^ 16 by omega)

theorem nextWord_of_inside (machine : Machine) (inside : machine.pc.toNat + 1 < 4096) :
    machine.nextWord =
      Word.ofBytes machine.memory[machine.pc.toNat] machine.memory[machine.pc.toNat + 1] := by
  rw [nextWord, pc_add_one_of_inside machine inside, Table.readNearest_of_lt _ inside,
    Table.readNearest_of_lt _ (by omega)]

theorem nextWord_of_image {memory : Memory} (image : List UInt8) (offset : Nat)
    (loaded : machine.memory = Table.store memory programStart image)
    (stands : machine.pc.toNat = programStart + offset) (inside : offset + 1 < image.length)
    (fits : image.length ≤ programCapacity) :
    machine.nextWord = Word.ofBytes image[offset] image[offset + 1] := by
  simp only [programStart, programCapacity, memorySize] at stands fits
  have follows : (machine.pc + 1).toNat = programStart + (offset + 1) := by
    rw [UInt16.toNat_add, stands]
    exact Nat.mod_eq_of_lt (show 0x200 + offset + 1 < 2 ^ 16 by omega)
  have byte (i : Nat) (within : i < image.length) :
      Table.readNearest machine.memory (programStart + i : Nat) = image[i] := by
    have bound : programStart + i < 4096 := by
      rw [programStart]
      omega
    have written : programStart ≤ programStart + i ∧
        programStart + i < programStart + image.length := by omega
    rw [Table.readNearest_of_lt _ bound, loaded, Table.getElem_store, dif_pos written]
    simp only [List.get_eq_getElem, Nat.add_sub_cancel_left]
  rw [nextWord, follows, byte (offset + 1) inside, stands]
  exact congrArg (Word.ofBytes · image[offset + 1]) (byte offset (by omega))

theorem step_of_inside (running : machine.waiting = false)
    (inside : machine.pc.toNat ≤ lastInstruction) :
    machine.step = (machine.fetch.2.execute machine.nextWord).restoreIfFatal machine.pc := by
  have unwaiting : ¬ machine.waiting = true := by simp [running]
  simp only [step, if_neg unwaiting, if_pos inside]
  rfl

theorem step_of_fetched? (fetched : machine.fetched? = some instruction) :
    machine.step =
      ((machine.fetch.2.perform instruction).1.reported (machine.fetch.2.perform instruction).2
        (if (machine.fetch.2.perform instruction).2 = .ok then machine.fault
          else machine.nextWord)).restoreIfFatal machine.pc := by
  obtain ⟨running, inside, rfl⟩ := fetched?_eq_some_iff.mp fetched
  rw [step_of_inside running inside, execute_eq]
  rfl

theorem step_of_sound (fetched : machine.fetched? = some instruction)
    (sound : (machine.fetch.2.perform instruction).2.isFatal = false) :
    machine.step =
      (machine.fetch.2.perform instruction).1.reported (machine.fetch.2.perform instruction).2
        (if (machine.fetch.2.perform instruction).2 = .ok then machine.fault
          else machine.nextWord) := by
  rw [step_of_fetched? fetched, restoreIfFatal]
  exact if_neg (by simp [reported, sound])

theorem step_of_unknown (fetched : machine.fetched? = some .unknown) :
    machine.step = machine.fetch.2.reported .noOp machine.nextWord :=
  step_of_sound fetched rfl

/-- The fetch is undone, and a failed instruction has done nothing else. -/
theorem step_of_failed (fetched : machine.fetched? = some instruction)
    (failed : (machine.fetch.2.perform instruction).2.isFatal = true) :
    machine.step =
      machine.reported (machine.fetch.2.perform instruction).2 machine.nextWord := by
  have unclean := Status.ne_ok_of_isFatal failed
  rw [step_of_fetched? fetched, perform_of_isFatal failed, if_neg unclean, restoreIfFatal]
  exact if_pos failed

/-- Everything that a step can do. -/
theorem step_cases (machine : Machine) :
    (machine.waiting = true ∧ ∃ key, machine.keypad.lowest? = some key ∧
      machine.step = (machine.receiveKey key).reported .ok machine.fault) ∨
    (machine.waiting = true ∧ machine.keypad.lowest? = none ∧
      machine.step = machine.reported .inputHalt machine.waitWord) ∨
    (∃ instruction, machine.fetched? = some instruction ∧
      (machine.fetch.2.perform instruction).2.isFatal = false ∧
      machine.step =
        (machine.fetch.2.perform instruction).1.reported (machine.fetch.2.perform instruction).2
          (if (machine.fetch.2.perform instruction).2 = .ok then machine.fault
            else machine.nextWord)) ∨
    (∃ instruction, machine.fetched? = some instruction ∧
      (machine.fetch.2.perform instruction).2.isFatal = true ∧
      machine.step =
        machine.reported (machine.fetch.2.perform instruction).2 machine.nextWord) ∨
    (machine.waiting = false ∧ lastInstruction < machine.pc.toNat ∧
      machine.step = machine.reported .invalidAddress machine.pc) := by
  cases waiting : machine.waiting with
  | true =>
    cases lowest : machine.keypad.lowest? with
    | some key => exact .inl ⟨rfl, key, rfl, step_of_held waiting lowest⟩
    | none => exact .inr (.inl ⟨rfl, rfl, step_of_released waiting lowest⟩)
  | false =>
    by_cases inside : machine.pc.toNat ≤ lastInstruction
    · have fetched := fetched?_eq_some_iff.mpr ⟨waiting, inside, rfl⟩
      cases fatal : (machine.fetch.2.perform (Instruction.decode machine.nextWord)).2.isFatal with
      | false => exact .inr (.inr (.inl ⟨_, fetched, fatal, step_of_sound fetched fatal⟩))
      | true => exact .inr (.inr (.inr (.inl ⟨_, fetched, fatal, step_of_failed fetched fatal⟩)))
    · have outside : lastInstruction < machine.pc.toNat := by omega
      exact .inr (.inr (.inr (.inr ⟨rfl, outside, step_of_outside waiting outside⟩)))

theorem step_eq_reported_of_isFatal (failed : machine.step.status.isFatal = true) :
    machine.step = machine.reported machine.step.status machine.step.fault := by
  rcases step_cases machine with ⟨-, key, -, received⟩ | ⟨-, -, waits⟩ |
    ⟨instruction, -, sound, performed⟩ | ⟨instruction, -, -, failure⟩ | ⟨-, -, outside⟩
  · rw [received] at failed
    exact Bool.noConfusion failed
  · rw [waits] at failed
    exact Bool.noConfusion failed
  · rw [performed] at failed
    exact absurd failed (by simp [reported, sound])
  · rw [failure]
    rfl
  · rw [outside]
    rfl

def Ignores (machine : Machine) (other : Periphery) : Prop :=
  (machine.waiting = true → other.keypad.lowest? = machine.keypad.lowest?) ∧
    ∀ instruction, machine.fetched? = some instruction → machine.Overlooks other instruction

theorem fetched?_of_waiting (waiting : machine.waiting = true) : machine.fetched? = none := by
  simp [fetched?, waiting]

theorem fetched?_of_outside (outside : lastInstruction < machine.pc.toNat) :
    machine.fetched? = none := by
  have unfit : ¬ machine.pc.toNat ≤ lastInstruction := Nat.not_le_of_lt outside
  simp [fetched?, unfit]

theorem updated_of_isFatal {other : Periphery}
    (failed : (machine.fetch.2.perform instruction).2.isFatal = true) :
    other.updated machine instruction = other := by
  cases instruction with
  | setDelay x => exact Bool.noConfusion failed
  | setSound x => exact Bool.noConfusion failed
  | random x mask => exact Bool.noConfusion failed
  | _ => rfl

end Machine

def Periphery.stepped (periphery : Periphery) (machine : Machine) : Periphery :=
  { machine.fetched?.elim periphery (periphery.updated machine) with
    status := machine.step.status
    fault := if machine.step.status = .ok then periphery.fault else machine.step.fault }

theorem Periphery.stepped_report (periphery : Periphery) (machine : Machine) (status : Status)
    (fault : UInt16) :
    { periphery with status, fault }.stepped machine =
      { periphery.stepped machine with
        fault := if machine.step.status = .ok then fault else machine.step.fault } := by
  cases fetched : machine.fetched? with
  | none => simp only [stepped, fetched, Option.elim_none]
  | some instruction => simp only [stepped, fetched, Option.elim_some, updated_report]

namespace Machine

variable {machine : Machine} {instruction : Instruction}

theorem step_fitted {other : Periphery} (ignores : machine.Ignores other) :
    (machine.fitted other).step = machine.step.fitted (other.stepped machine) := by
  obtain ⟨polls, performs⟩ := ignores
  -- What decides the case is not in the periphery, so both machines are in the same one.
  rcases step_cases machine with ⟨waiting, key, held, received⟩ | ⟨waiting, released, waits⟩ |
    ⟨instruction, fetched, sound, performed⟩ | ⟨instruction, fetched, failed, failure⟩ |
    ⟨running, outside, stands⟩
  · have stepped : (machine.fitted other).step = _ :=
      step_of_held waiting ((polls waiting).trans held)
    rw [stepped, Periphery.stepped, fetched?_of_waiting waiting, received]
    rfl
  · have stepped : (machine.fitted other).step = _ :=
      step_of_released waiting ((polls waiting).trans released)
    rw [stepped, Periphery.stepped, fetched?_of_waiting waiting, waits]
    rfl
  · have overlooks : machine.fetch.2.Overlooks other instruction := performs instruction fetched
    have same : (machine.fitted other).fetch.2.perform instruction = _ := perform_fitted overlooks
    have fetched' : (machine.fitted other).fetched? = some instruction := fetched
    rw [step_of_sound fetched' (by rw [same]; exact sound), same, Periphery.stepped, fetched,
      performed]
    by_cases clean : (machine.fetch.2.perform instruction).2 = .ok
    · simp only [clean, if_true, reported_status]
      rfl
    · simp only [clean, if_false, reported_status, reported_fault]
      rfl
  · have overlooks : machine.fetch.2.Overlooks other instruction := performs instruction fetched
    have same : (machine.fitted other).fetch.2.perform instruction = _ := perform_fitted overlooks
    have fetched' : (machine.fitted other).fetched? = some instruction := fetched
    have unclean := Status.ne_ok_of_isFatal failed
    rw [step_of_failed fetched' (by rw [same]; exact failed), same, Periphery.stepped, fetched,
      failure, Option.elim_some]
    have kept : other.updated machine instruction = other := updated_of_isFatal failed
    simp only [kept, reported_status, reported_fault, unclean, if_false]
    rfl
  · have stepped : (machine.fitted other).step = _ := step_of_outside running outside
    rw [stepped, Periphery.stepped, fetched?_of_outside outside, stands]
    rfl

theorem ignores_of_eq {other : Periphery} (rng : other.rng = machine.rng)
    (delayTimer : other.delayTimer = machine.delayTimer) (keypad : other.keypad = machine.keypad)
    (variant : other.variant = machine.variant) : machine.Ignores other :=
  ⟨fun _ => congrArg Keypad.lowest? keypad,
    fun instruction _ => overlooks_of_eq rng delayTimer keypad variant instruction⟩

theorem step_periphery (machine : Machine) :
    machine.step.periphery = machine.periphery.stepped machine := by
  have ignores : machine.Ignores machine.periphery := ignores_of_eq rfl rfl rfl rfl
  have stepped := step_fitted ignores
  rw [fitted_periphery] at stepped
  exact congrArg periphery stepped

/-- A part that neither an instruction nor a report changes stays through a step. -/
theorem step_kept {α : Type} {part : Periphery → α}
    (unreported : ∀ periphery status fault, part { periphery with status, fault } = part periphery)
    (kept : ∀ instruction, part (machine.periphery.updated machine instruction) =
      part machine.periphery) : part machine.step.periphery = part machine.periphery := by
  rw [step_periphery, Periphery.stepped, unreported]
  cases machine.fetched? with
  | none => rfl
  | some instruction => exact kept instruction

theorem step_keypad (machine : Machine) : machine.step.keypad = machine.keypad := by
  have kept := step_kept (fun _ _ _ => rfl) (machine.periphery.updated_keypad machine)
  exact kept

/-- A step of a machine with another report: a clean step keeps the word that was recorded, and any
other step reports the same. -/
theorem step_reported (machine : Machine) (status : Status) (fault : UInt16) :
    (machine.reported status fault).step =
      if machine.step.status = .ok then machine.step.reported .ok fault else machine.step := by
  have ignores : machine.Ignores { machine.periphery with status, fault } :=
    ignores_of_eq rfl rfl rfl rfl
  rw [← fitted_report, step_fitted ignores, Periphery.stepped_report, ← step_periphery]
  by_cases clean : machine.step.status = .ok
  · rw [if_pos clean, if_pos clean, ← clean]
    rfl
  · rw [if_neg clean, if_neg clean]
    rfl

theorem step_fault_of_ok (clean : machine.step.status = .ok) :
    machine.step.fault = machine.fault := by
  have same := step_reported machine machine.status machine.fault
  rw [reported_self, if_pos clean] at same
  rw [same]
  rfl

theorem step_withStatus (machine : Machine) (status : Status) :
    ({ machine with status } : Machine).step = machine.step := by
  have same := step_reported machine status machine.fault
  by_cases clean : machine.step.status = .ok
  · rw [if_pos clean] at same
    calc
      _ = machine.step.reported .ok machine.fault := same
      _ = machine.step.reported machine.step.status machine.step.fault := by
        rw [clean, step_fault_of_ok clean]
      _ = machine.step := reported_self machine.step
  · rwa [if_neg clean] at same

end Machine

end Chip8
