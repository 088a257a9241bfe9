import Chip8.Proofs.Checked.Execute

/-!
Requests with checked access. On a well-formed machine the checks pass in every step, hence in every
batch, and in whatever else a host asks for. Since every machine that a host can come to is
well-formed, the rules for positions outside a table never apply.
-/

namespace Chip8.Checked

def resolveWait (machine : Machine) : Option Machine :=
  match machine.keypad.lowest? with
  | some key => receiveKey machine key
  | none => some (machine.reported .inputHalt machine.waitWord)

def fetch (machine : Machine) : Option (UInt16 × Machine) := do
  let high ← Table.read? machine.memory machine.pc.toNat
  let low ← Table.read? machine.memory (machine.pc + 1).toNat
  return (Word.ofBytes high low, { machine with pc := machine.pc + 2 })

def step (machine : Machine) : Option Machine := do
  if machine.waiting then resolveWait { machine with status := .ok }
  else if machine.pc.toNat ≤ lastInstruction then
    let (word, advanced) ← fetch machine
    let executed ← execute advanced word
    return executed.restoreIfFatal machine.pc
  else return machine.reported .invalidAddress machine.pc

def pass (batch : Machine.Batch) : Option Machine.Batch := do
  let stepped ← step batch.machine
  return {
    machine := stepped
    executed := if stepped.status.consumed then batch.executed + 1 else batch.executed
    unknownWord? := if stepped.status = .noOp then some stepped.fault else batch.unknownWord? }

def advance : Nat → Machine.Batch → Option Machine.Batch
  | 0, batch => some batch
  | cycles + 1, batch => do
    if batch.machine.status.consumed then advance cycles (← pass batch) else return batch

def run (machine : Machine) (cycles : Int) : Option (Machine × Nat) := do
  let batch ← advance cycles.toNat (Machine.Batch.start machine)
  return (batch.result, batch.executed)

def reset (machine : Machine) : Option Machine := do
  let memory ← Table.store? (Vector.replicate 4096 0) fontStart font
  return { machine.reset with memory }

def load (machine : Machine) (image : List UInt8) : Option Machine := do
  if image.length ≤ programCapacity then
    let fresh ← reset machine
    let memory ← Table.store? fresh.memory programStart image
    return { fresh with memory }
  else return machine

def putKey (machine : Machine) (number : Int) (held : Bool) : Option Machine := do
  match Keypad.key? number with
  | some key =>
    let keypad ← Table.write? machine.keypad key.val held
    return { machine with keypad }
  | none => return machine

def serve (machine : Machine) : Machine.Request → Option Machine
  | .load image => load machine image
  | .reset => reset machine
  | .execute word => execute machine word
  | .step => step machine
  | .run cycles => (run machine cycles).map Prod.fst
  | .press key => putKey machine key true
  | .release key => putKey machine key false
  | .tick => some machine.tickTimers

variable {machine : Machine}

theorem resolveWait_eq (names : machine.waitRegister ≤ 15) :
    resolveWait machine = some machine.resolveWait := by
  unfold resolveWait Machine.resolveWait
  cases machine.keypad.lowest? with
  | none => rfl
  | some key => exact receiveKey_eq names key

theorem fetch_eq (inside : machine.pc.toNat ≤ lastInstruction) :
    fetch machine = some machine.fetch := by
  have within : machine.pc.toNat + 1 < 4096 := Nat.lt_succ_of_le (Nat.succ_le_succ inside)
  have here : machine.pc.toNat < 4096 := by omega
  rw [fetch, Machine.pc_add_one_of_inside machine within, Table.read?_of_lt here,
    Table.read?_of_lt within, Machine.fetch, Machine.nextWord_of_inside machine within]
  rfl

theorem step_eq (wellFormed : machine.WellFormed) : step machine = some machine.step := by
  cases waiting : machine.waiting with
  | true =>
    rw [step, Machine.step, if_pos waiting, if_pos waiting]
    exact resolveWait_eq wellFormed.waitRegister
  | false =>
    by_cases inside : machine.pc.toNat ≤ lastInstruction
    · have stack : machine.fetch.2.stack.WellFormed := wellFormed.stack
      rw [Machine.step_of_inside waiting inside, step, waiting, if_neg Bool.false_ne_true,
        if_pos inside, fetch_eq inside, Option.bind_eq_bind, Option.bind_some]
      simp only [execute_eq stack]
      rfl
    · rw [Machine.step_of_outside waiting (by omega), step, waiting, if_neg Bool.false_ne_true,
        if_neg inside]
      rfl

theorem pass_eq {batch : Machine.Batch} (wellFormed : batch.machine.WellFormed) :
    pass batch = some batch.pass := by
  rw [pass, step_eq wellFormed]
  rfl

theorem advance_eq {batch : Machine.Batch} (wellFormed : batch.machine.WellFormed) (cycles : Nat) :
    advance cycles batch = some (batch.advance cycles) := by
  induction cycles generalizing batch with
  | zero => rfl
  | succ cycles ih =>
    have next : advance cycles batch.pass = some (batch.pass.advance cycles) := ih wellFormed.step
    rw [advance, Machine.Batch.advance, pass_eq wellFormed]
    split
    · exact next
    · rfl

theorem run_eq (wellFormed : machine.WellFormed) (cycles : Int) :
    run machine cycles = some (machine.run cycles) := by
  have start : (Machine.Batch.start machine).machine.WellFormed :=
    wellFormed.reported .ok machine.fault (by decide) (by simp)
  rw [run, advance_eq start]
  rfl

theorem reset_eq (machine : Machine) : reset machine = some machine.reset := by
  have inside : fontStart + font.length ≤ 4096 := by decide
  rw [reset, Table.store?_of_le inside, Machine.reset, Machine.powerOn, Memory.initial]
  rfl

theorem load_eq (machine : Machine) (image : List UInt8) :
    load machine image = some (machine.serve (.load image)) := by
  by_cases fits : image.length ≤ programCapacity
  · have inside : programStart + image.length ≤ 4096 := by
      simp only [programStart, programCapacity, memorySize] at fits ⊢
      omega
    simp only [load, if_pos fits, reset_eq, Option.bind_eq_bind, Option.bind_some,
      Table.store?_of_le inside, Machine.serve, Machine.load_of_le fits]
    rfl
  · simp only [load, if_neg fits, Machine.serve, Machine.load_of_lt (Nat.lt_of_not_le fits)]
    rfl

theorem putKey_eq (machine : Machine) (number : Int) (held : Bool) :
    putKey machine number held = some { machine with keypad := machine.keypad.put number held } := by
  cases named : Keypad.key? number with
  | none => simp [putKey, named, Keypad.put]
  | some key => simp [putKey, named, Keypad.put, Table.write?_of_lt key.isLt]

theorem serve_eq (wellFormed : machine.WellFormed) (request : Machine.Request) :
    serve machine request = some (machine.serve request) := by
  cases request with
  | load image => exact load_eq machine image
  | reset => exact reset_eq machine
  | execute word => exact execute_eq wellFormed.stack word
  | step => exact step_eq wellFormed
  | run cycles => simp only [serve, run_eq wellFormed, Option.map_some]; rfl
  | press key => exact putKey_eq machine key true
  | release key => exact putKey_eq machine key false
  | tick => rfl

/-- Every machine that a host can come to from power-on is well-formed, and whatever is asked of it
next, no check fails and the machine is the same as without them. -/
theorem never_outside (rng : RandomKey) (variant : Variant) (history : List Machine.Request) :
    let machine := (Machine.create rng variant).after history
    machine.WellFormed ∧
      (∀ request, serve machine request = some (machine.serve request)) ∧
      ∀ cycles, run machine cycles = some (machine.run cycles) := by
  have wellFormed := Machine.wellFormed_after rng variant history
  exact ⟨wellFormed, serve_eq wellFormed, run_eq wellFormed⟩

end Chip8.Checked
