import Chip8.Machine.Execute

/-!
Steps and batches. A step polls the input gate while the machine waits for a key and otherwise
fetches and executes one instruction; a fatal step leaves pc at the instruction that failed. A batch
is a number of steps that ends early at a key wait or a fatal status.
-/

namespace Chip8.Machine

def resolveWait (machine : Machine) : Machine :=
  match machine.keypad.lowest? with
  | some key => machine.receiveKey key
  | none =>
    { machine with
      status := .inputHalt
      fault := (0xF00A : UInt16) ||| (machine.waitRegister.toUInt16 <<< 8) }

/-- The word at pc. Past the end of memory the last byte stands for every byte. -/
def nextWord (machine : Machine) : UInt16 :=
  Word.ofBytes (Table.readNearest machine.memory machine.pc.toNat)
    (Table.readNearest machine.memory (machine.pc + 1).toNat)

def fetch (machine : Machine) : UInt16 × Machine :=
  (machine.nextWord, { machine with pc := machine.pc + 2 })

def restoreIfFatal (machine : Machine) (pc : UInt16) : Machine :=
  if machine.status.isFatal then { machine with pc } else machine

def step (machine : Machine) : Machine :=
  if machine.waiting then { machine with status := .ok }.resolveWait
  else if machine.pc.toNat ≤ lastInstruction then
    let pc := machine.pc
    let (word, advanced) := machine.fetch
    (advanced.execute word).restoreIfFatal pc
  -- There is no word to record, so pc stands in for it.
  else { machine with status := .invalidAddress, fault := machine.pc }

structure Batch where
  machine : Machine
  executed : Nat
  unknownWord? : Option UInt16

namespace Batch

def start (machine : Machine) : Batch := ⟨{ machine with status := .ok }, 0, none⟩

def pass (batch : Batch) : Batch :=
  let stepped := batch.machine.step
  { machine := stepped
    executed := if stepped.status.consumed then batch.executed + 1 else batch.executed
    unknownWord? := if stepped.status = .noOp then some stepped.fault else batch.unknownWord? }

def advance : Nat → Batch → Batch
  | 0, batch => batch
  | cycles + 1, batch =>
    if batch.machine.status.consumed then advance cycles batch.pass else batch

/-- The machine as the batch leaves it. A batch that ran to its end reports the last unknown word it
met; one that stopped early reports what stopped it. -/
def result (batch : Batch) : Machine :=
  if batch.machine.status.consumed then
    match batch.unknownWord? with
    | some word => { batch.machine with status := .noOp, fault := word }
    | none => { batch.machine with status := .ok }
  else batch.machine

end Batch

def run (machine : Machine) (cycles : Int) : Machine × Nat :=
  let batch := (Batch.start machine).advance cycles.toNat
  (batch.result, batch.executed)

structure BatchReport where
  machine : Machine
  executed : Nat
  condition : Option Condition

def executeCycles (machine : Machine) (cycles : Int) : Except HostError BatchReport :=
  if Word.isSigned32 cycles then do
    let (machine, executed) := machine.run cycles
    let condition ← machine.condition
    return { machine, executed, condition }
  else .error (.outOfRange cycles)

end Chip8.Machine
