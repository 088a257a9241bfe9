import Chip8.Proofs.Machine.WellFormed

/-!
Where pc can be while a machine runs programs. It may run off the end of memory, by a fetch or a skip
at the last word, and an address past the end may be called from and returned to, but it never gets
further than two words. `Confined` puts this together with what it rests on, the addresses on the
stack and the word that a pending wait comes from. `control_after` is the result for every machine
that is never made to execute a word from outside its memory.
-/

namespace Chip8.Machine

variable {machine : Machine} {instruction : Instruction}

def IsReturnAddress (address : UInt16) : Prop := 2 ≤ address.toNat ∧ address.toNat ≤ 0x1000

/-- The word before pc is the key wait that the machine is held up by. -/
def WaitPrecedes (machine : Machine) : Prop :=
  ∃ (address : Nat) (_ : address + 1 < 4096), machine.pc.toNat = address + 2 ∧
    (Word.ofBytes machine.memory[address] machine.memory[address + 1]).toNat =
      0xF00A + 256 * machine.waitRegister.toNat

structure Confined (machine : Machine) : Prop where
  stack : machine.stack.WellFormed
  pc : machine.pc.toNat ≤ 0x1002
  returns : machine.stack.All IsReturnAddress
  gate : machine.waiting = true → machine.WaitPrecedes

theorem pc_add_two (low : machine.pc.toNat ≤ 0x1002) :
    (machine.pc + 2).toNat = machine.pc.toNat + 2 := by
  rw [UInt16.toNat_add]
  exact Nat.mod_eq_of_lt (show machine.pc.toNat + 2 < 2 ^ 16 by omega)

theorem isReturnAddress_fetch (inside : machine.pc.toNat ≤ lastInstruction) :
    IsReturnAddress machine.fetch.2.pc := by
  simp only [lastInstruction, memorySize] at inside
  have follows : machine.fetch.2.pc.toNat = machine.pc.toNat + 2 := pc_add_two (by omega)
  constructor <;> omega

theorem jumpTo_pc (machine : Machine) (target : Nat) :
    (machine.jumpTo target).1.pc = machine.pc ∨
      (machine.jumpTo target).1.pc.toNat ≤ lastInstruction := by
  unfold jumpTo
  split
  · rename_i fits
    exact .inr (Nat.le_trans (Nat.mod_le target _) fits)
  · exact .inl rfl

theorem skipIf_pc (machine : Machine) (condition : Bool) :
    (machine.skipIf condition).pc = machine.pc ∨
      (machine.skipIf condition).pc = machine.pc + 2 := by
  cases condition with
  | true => exact .inr rfl
  | false => exact .inl rfl

/-- Where pc stands after an instruction: where it stood, a word further, at an address that holds an
instruction, or at the address that a return takes from the stack. -/
theorem perform_pc (machine : Machine) (instruction : Instruction) :
    (machine.perform instruction).1.pc = machine.pc ∨
    (machine.perform instruction).1.pc = machine.pc + 2 ∨
    (machine.perform instruction).1.pc.toNat ≤ lastInstruction ∨
    (machine.stack.isEmpty = false ∧ (machine.perform instruction).1.pc = machine.stack.pop.1) := by
  cases instruction with
  | skipIfByte x value => exact (skipIf_pc machine _).imp_right .inl
  | skipUnlessByte x value => exact (skipIf_pc machine _).imp_right .inl
  | skipIfEqual x y => exact (skipIf_pc machine _).imp_right .inl
  | skipUnlessEqual x y => exact (skipIf_pc machine _).imp_right .inl
  | skipIfKey x => exact (skipIf_pc machine _).imp_right .inl
  | skipUnlessKey x => exact (skipIf_pc machine _).imp_right .inl
  | jump target => exact (jumpTo_pc machine target).imp_right fun fits => .inr (.inl fits)
  | jumpOffset target => exact (jumpTo_pc machine _).imp_right fun fits => .inr (.inl fits)
  | call target =>
    simp only [perform, call]
    split
    · exact .inl rfl
    · split
      · rename_i fits
        exact .inr (.inr (.inl (Nat.le_trans (Nat.mod_le target.val _) fits)))
      · exact .inl rfl
  | ret =>
    simp only [perform, returnFromCall]
    split
    · exact .inl rfl
    · rename_i used
      exact .inr (.inr (.inr ⟨eq_false_of_ne_true used, rfl⟩))
  | _ => exact .inl ((perform_frame machine _).pc (by simp))

theorem perform_pc_le (fetched : IsReturnAddress machine.pc)
    (wellFormed : machine.stack.WellFormed) (returns : machine.stack.All IsReturnAddress)
    (instruction : Instruction) : (machine.perform instruction).1.pc.toNat ≤ 0x1002 := by
  have low := fetched.2
  have further : (machine.pc + 2).toNat = machine.pc.toNat + 2 := pc_add_two (by omega)
  rcases perform_pc machine instruction with stays | skips | fits | ⟨used, popped⟩
  · rw [stays]
    omega
  · rw [skips]
    omega
  · simp only [lastInstruction, memorySize] at fits
    omega
  · rw [popped]
    have bounds := (returns.pop wellFormed used).1.2
    omega

theorem perform_stack_all {property : UInt16 → Prop} (wellFormed : machine.stack.WellFormed)
    (all : machine.stack.All property) (pushed : property machine.pc) (instruction : Instruction) :
    (machine.perform instruction).1.stack.All property := by
  rcases perform_control machine instruction with same | ⟨room, pc, calls⟩ | ⟨used, returns⟩ |
    ⟨x, rfl⟩
  · rw [same.stack]
    exact all
  · rw [calls]
    exact all.push wellFormed room pushed
  · rw [returns]
    exact (all.pop wellFormed used).2
  · rw [(perform_awaitKey_control machine x).1]
    exact all

theorem waitPrecedes_of_fetched? (fetched : machine.fetched? = some instruction)
    (waits : (machine.fetch.2.perform instruction).1.waiting = true) :
    (machine.fetch.2.perform instruction).1.WaitPrecedes := by
  obtain ⟨running, inside, decoded⟩ := fetched?_eq_some_iff.mp fetched
  simp only [lastInstruction, memorySize] at inside
  by_cases awaits : .gate ∈ instruction.parts
  · obtain ⟨x, rfl⟩ : ∃ x, instruction = .awaitKey x := by
      cases instruction <;> simp at awaits ⊢
    cases held : machine.fetch.2.keypad.lowest? with
    | some key => simp [perform, awaitKey, held, receiveKey] at waits
    | none =>
      have word := Instruction.decode_eq_awaitKey_iff.mp decoded
      have register : (UInt8.ofNat x.val).toNat = x.val :=
        Nat.mod_eq_of_lt (show x.val < 2 ^ 8 by omega)
      rw [nextWord_of_inside machine (by omega)] at word
      rw [perform_awaitKey_of_released held]
      refine ⟨machine.pc.toNat, by omega, pc_add_two (by omega), ?_⟩
      dsimp only
      rw [register]
      exact word
  · rw [(perform_frame machine.fetch.2 instruction).waiting awaits] at waits
    exact absurd (running.symm.trans waits) Bool.false_ne_true

theorem Confined.reported (confined : machine.Confined) (status : Status) (fault : UInt16) :
    (machine.reported status fault).Confined :=
  ⟨confined.stack, confined.pc, confined.returns, confined.gate⟩

theorem Confined.step (confined : machine.Confined) : machine.step.Confined := by
  rcases step_cases machine with ⟨-, key, -, received⟩ | ⟨-, -, waits⟩ |
    ⟨instruction, fetched, -, performed⟩ | ⟨instruction, -, -, failure⟩ | ⟨-, -, stands⟩
  · rw [received]
    exact ⟨confined.stack, confined.pc, confined.returns, Bool.noConfusion⟩
  · rw [waits]
    exact confined.reported _ _
  · rw [performed]
    have next := isReturnAddress_fetch (fetched?_eq_some_iff.mp fetched).2.1
    have stack : machine.fetch.2.stack.WellFormed := confined.stack
    have returns : machine.fetch.2.stack.All IsReturnAddress := confined.returns
    apply Confined.reported
    constructor
    · exact perform_stack_wellFormed stack instruction
    · exact perform_pc_le next stack returns instruction
    · exact perform_stack_all stack returns next instruction
    · exact waitPrecedes_of_fetched? fetched
  · rw [failure]
    exact confined.reported _ _
  · rw [stands]
    exact confined.reported _ _

theorem Confined.run (confined : machine.Confined) (cycles : Int) :
    (machine.run cycles).1.Confined := by
  apply run_of_kept _ _ confined
  · intro machine confined
    exact confined.step
  · intro machine status fault _ confined
    exact confined.reported status fault

theorem confined_powerOn (rng : RandomKey) (keypad : Keypad) (variant : Variant) :
    (powerOn rng keypad variant).Confined :=
  ⟨Stack.wellFormed_empty, by simp [powerOn, programStart], Stack.all_empty, Bool.noConfusion⟩

theorem Confined.serve (confined : machine.Confined) {request : Request}
    (fetches : ∀ word, request ≠ .execute word) : (machine.serve request).Confined := by
  have ⟨stack, pc, returns, gate⟩ := confined
  cases request with
  | load image =>
    by_cases fits : image.length ≤ programCapacity
    · have fresh := confined_powerOn machine.rng machine.keypad machine.variant
      rw [serve_load_of_le fits]
      exact ⟨fresh.stack, fresh.pc, fresh.returns, Bool.noConfusion⟩
    · rw [serve_load_of_lt (Nat.lt_of_not_le fits)]
      exact confined
  | reset => exact confined_powerOn machine.rng machine.keypad machine.variant
  | execute word => exact absurd rfl (fetches word)
  | step => exact confined.step
  | run cycles => exact confined.run cycles
  | press key => exact ⟨stack, pc, returns, gate⟩
  | release key => exact ⟨stack, pc, returns, gate⟩
  | tick => exact ⟨stack, pc, returns, gate⟩

theorem confined_after (rng : RandomKey) (variant : Variant) {history : List Request}
    (fetches : ∀ word, Request.execute word ∉ history) :
    ((create rng variant).after history).Confined := by
  apply after_of_kept
  · intro machine request member confined
    apply confined.serve
    rintro word rfl
    exact fetches word member
  · exact confined_powerOn rng Keypad.released variant

/-- The control state of a machine that only executes what it fetches from its memory. Neither the
fetch nor a skip wraps around, and a fetch fails at one of four addresses only. -/
theorem control_after (rng : RandomKey) (variant : Variant) {history : List Request}
    (fetches : ∀ word, Request.execute word ∉ history) :
    let machine := (create rng variant).after history
    machine.pc.toNat ≤ 0x1002 ∧
    (∀ i : Fin 16, i.val < machine.stack.pointer.toInt →
      2 ≤ (machine.stack.slots.get i).toNat ∧ (machine.stack.slots.get i).toNat ≤ 0x1000) ∧
    machine.fetch.2.pc.toNat = machine.pc.toNat + 2 ∧
    (∀ condition, (machine.fetch.2.skipIf condition).pc.toNat =
      machine.pc.toNat + if condition then 4 else 2) ∧
    (machine.waiting = true →
      ∃ (address : Nat) (_ : address + 1 < 4096), machine.pc.toNat = address + 2 ∧
        (Word.ofBytes machine.memory[address] machine.memory[address + 1]).toNat =
          0xF00A + 256 * machine.waitRegister.toNat) ∧
    (machine.waiting = false → lastInstruction < machine.pc.toNat →
      machine.step = { machine with status := .invalidAddress, fault := machine.pc } ∧
      machine.pc.toNat ∈ [0xFFF, 0x1000, 0x1001, 0x1002]) := by
  intro machine
  have confined := confined_after rng variant fetches
  have low : machine.pc.toNat ≤ 0x1002 := confined.pc
  have follows : machine.fetch.2.pc.toNat = machine.pc.toNat + 2 := pc_add_two low
  refine ⟨low, confined.returns, follows, ?_, confined.gate, ?_⟩
  · intro condition
    cases condition with
    | true =>
      change (machine.fetch.2.pc + 2).toNat = _
      rw [UInt16.toNat_add, follows]
      exact Nat.mod_eq_of_lt (show machine.pc.toNat + 2 + 2 < 2 ^ 16 by omega)
    | false => exact follows
  · intro running outside
    refine ⟨step_of_outside running outside, ?_⟩
    simp only [lastInstruction, memorySize] at outside
    simp only [List.mem_cons, List.not_mem_nil, or_false]
    omega

def keyWait : List Request := [.load [0xF3, 0x0A], .step]

theorem waiting_after_keyWait : ((create ⟨0, 0⟩ {}).after keyWait).waiting = true := by
  have loaded : (create ⟨0, 0⟩ {}).serve (.load [0xF3, 0x0A]) =
      (create ⟨0, 0⟩ {}).reset.copyImage [0xF3, 0x0A] := serve_load_of_le (by decide)
  have word : ((create ⟨0, 0⟩ {}).reset.copyImage [0xF3, 0x0A]).nextWord =
      Word.ofBytes 0xF3 0x0A := nextWord_of_image [0xF3, 0x0A] 0 rfl rfl (by decide) (by decide)
  have fetched : ((create ⟨0, 0⟩ {}).reset.copyImage [0xF3, 0x0A]).fetched? =
      some (.awaitKey 3) := by
    rw [fetched?_eq_some_iff, word]
    exact ⟨rfl, by decide, by decide⟩
  rw [keyWait, after_cons, after_cons, after_nil, loaded, serve_step,
    step_of_awaitKey_of_released fetched (by decide)]

theorem control_after_keyWait :
    ∃ machine, machine = (create ⟨0, 0⟩ {}).after keyWait ∧
      (∀ word, Request.execute word ∉ keyWait) ∧ machine.waiting = true ∧
      ∃ (address : Nat) (_ : address + 1 < 4096), machine.pc.toNat = address + 2 ∧
        (Word.ofBytes machine.memory[address] machine.memory[address + 1]).toNat =
          0xF00A + 256 * machine.waitRegister.toNat := by
  have fetches : ∀ word, Request.execute word ∉ keyWait := by simp [keyWait]
  have waits := waiting_after_keyWait
  exact ⟨_, rfl, fetches, waits, (control_after ⟨0, 0⟩ {} fetches).2.2.2.2.1 waits⟩

end Chip8.Machine
