import Chip8.Proofs.Checked.Sprite
import Chip8.Proofs.Machine.WellFormed

/-!
Instructions with checked access. Each function here is the one of the same name on machines, with
every access to the registers, the stack, the keypad and the memory checked, and its lemma says that
the checks pass and the result is the same. Only the stack asks for a condition: a push and a pop
need a pointer in the stack. Decoding is a case distinction on the digits of a word and reads no table.
-/

namespace Chip8.Checked

def register (machine : Machine) (x : Register) : Option UInt8 :=
  Table.read? machine.registers x.val

def setRegister (machine : Machine) (x : Register) (value : UInt8) : Option Machine := do
  let registers ← Table.write? machine.registers x.val value
  return { machine with registers }

def receiveKey (machine : Machine) (key : Fin 16) : Option Machine := do
  let registers ← Table.write? machine.registers machine.waitRegister.toNat (UInt8.ofNat key)
  return { machine with registers, waiting := false }

def isHeld (machine : Machine) (number : Nat) : Option Bool :=
  Table.read? machine.keypad (number % 16 : Nat)

def push (stack : Stack) (address : UInt16) : Option Stack := do
  let slots ← Table.write? stack.slots stack.pointer.toInt address
  return ⟨slots, stack.pointer + 1⟩

def pop (stack : Stack) : Option (UInt16 × Stack) := do
  let top := stack.pointer - 1
  let address ← Table.read? stack.slots top.toInt
  let slots ← Table.write? stack.slots top.toInt 0
  return (address, ⟨slots, top⟩)

def call (machine : Machine) (target : Nat) : Option (Machine × Status) := do
  if machine.stack.isFull then return (machine, .stackOverflow)
  else if target ≤ lastInstruction then
    let stack ← push machine.stack machine.pc
    return ({ machine with stack, pc := UInt16.ofNat target }, .ok)
  else return (machine, .invalidAddress)

def returnFromCall (machine : Machine) : Option Machine := do
  if machine.stack.isEmpty then return machine
  else
    let (address, stack) ← pop machine.stack
    return { machine with stack, pc := address }

def aluOperands (machine : Machine) (operation : Alu.Operation) (x y : Register) :
    Option (UInt8 × UInt8) := do
  let vx ← register machine x
  let vy ← register machine y
  return if operation.isShift && !machine.variant.shiftInPlace then (vy, vy) else (vx, vy)

def arithmetic (machine : Machine) (operation : Alu.Operation) (x y : Register) :
    Option Machine := do
  let (a, b) ← aluOperands machine operation x y
  let (result, raised?) := Alu.evaluate operation a b
  let written ← setRegister machine x result
  match raised? with
  | some raised => setRegister written flagRegister raised.toUInt8
  | none => return written

def guardSpan (machine : Machine) (length : Nat) (action : Machine → Option Machine) :
    Option (Machine × Status) := do
  if machine.spanWritable length then return (← action machine, .ok)
  else return (machine, .memoryWrite)

def storeDecimal (machine : Machine) (x : Register) : Option Machine := do
  let value ← register machine x
  let memory ← Table.store? machine.memory machine.index.toNat (Machine.decimalDigits value)
  return { machine with memory }

def registerAddress (machine : Machine) (x i : Register) : Nat :=
  if i ≤ x then machine.index.toNat + i.val else memorySize

def storeRegisters (machine : Machine) (x : Register) : Option Machine := do
  let memory ← Table.scatter? machine.memory
    ((List.finRange 16).map fun i => (registerAddress machine x i, machine.registers.get i))
  return { machine with memory }.advanceIndex x

def loadRegisters (machine : Machine) (x : Register) : Option Machine := do
  let registers ← Vector.ofFnM fun i : Register => do
    let loaded ← Table.readMasked? machine.memory (registerAddress machine x i) 0
    return if i ≤ x then loaded else machine.registers.get i
  return { machine with registers }.advanceIndex x

def awaitKey (machine : Machine) (x : Register) : Option (Machine × Status) := do
  let waiting := { machine with waiting := true, waitRegister := UInt8.ofNat x }
  match machine.keypad.lowest? with
  | some key => return (← receiveKey waiting key, .ok)
  | none => return (waiting, .inputHalt)

def perform (machine : Machine) (instruction : Instruction) : Option (Machine × Status) := do
  let v := register machine
  match instruction with
  | .unknown => return (machine, .noOp)
  | .clearScreen =>
    let memory ← Table.store? machine.memory 0 (List.replicate screenBytes 0)
    return ({ machine with memory }, .ok)
  | .ret => return (← returnFromCall machine, .ok)
  | .jump target => return machine.jumpTo target
  | .call target => call machine target
  | .skipIfByte x value => return (machine.skipIf ((← v x) = value), .ok)
  | .skipUnlessByte x value => return (machine.skipIf ((← v x) ≠ value), .ok)
  | .skipIfEqual x y => return (machine.skipIf ((← v x) = (← v y)), .ok)
  | .skipUnlessEqual x y => return (machine.skipIf ((← v x) ≠ (← v y)), .ok)
  | .setByte x value => return (← setRegister machine x value, .ok)
  | .addByte x value => return (← setRegister machine x ((← v x) + value), .ok)
  | .alu operation x y => return (← arithmetic machine operation x y, .ok)
  | .setIndex target => return ({ machine with index := UInt16.ofNat target }, .ok)
  | .jumpOffset target =>
    let offset ← v (Machine.offsetRegister machine.variant target)
    return machine.jumpTo (target + offset.toNat)
  | .random x mask =>
    let drawn ← setRegister machine x (machine.rng.byte &&& mask)
    return ({ drawn with rng := machine.rng.next }, .ok)
  | .draw x y height => return (← drawSprite machine (← v x).toNat (← v y).toNat height.val, .ok)
  | .skipIfKey x => return (machine.skipIf (← isHeld machine (← v x).toNat), .ok)
  | .skipUnlessKey x => return (machine.skipIf !(← isHeld machine (← v x).toNat), .ok)
  | .readDelay x => return (← setRegister machine x machine.delayTimer, .ok)
  | .awaitKey x => awaitKey machine x
  | .setDelay x => return ({ machine with delayTimer := ← v x }, .ok)
  | .setSound x => return ({ machine with soundTimer := ← v x }, .ok)
  | .addIndex x => return ({ machine with index := machine.index + (← v x).toUInt16 }, .ok)
  | .pointAtGlyph x =>
    let digit := (← v x).toNat % 16
    return ({ machine with index := UInt16.ofNat (glyphAddress digit) }, .ok)
  | .storeDecimal x => guardSpan machine 3 (storeDecimal · x)
  | .storeRegisters x => guardSpan machine (x + 1) (storeRegisters · x)
  | .loadRegisters x => guardSpan machine (x + 1) (loadRegisters · x)

def execute (machine : Machine) (word : UInt16) : Option Machine := do
  let (performed, status) ← perform machine (Instruction.decode word)
  return { performed with status, fault := if status = .ok then performed.fault else word }

variable {machine : Machine}

@[simp] theorem register_eq (machine : Machine) (x : Register) :
    register machine x = some (machine.registers.get x) :=
  Table.read?_of_lt x.isLt

@[simp] theorem setRegister_eq (machine : Machine) (x : Register) (value : UInt8) :
    setRegister machine x value = some (machine.setRegister x value) := by
  rw [setRegister, Table.write?_of_lt x.isLt]
  rfl

theorem receiveKey_eq (names : machine.waitRegister ≤ 15) (key : Fin 16) :
    receiveKey machine key = some (machine.receiveKey key) := by
  have inside : machine.waitRegister.toNat < 16 := by
    have small := UInt8.le_iff_toNat_le.mp names
    exact Nat.lt_succ_of_le small
  rw [receiveKey, Table.write?_of_lt inside, Machine.receiveKey, Table.write_of_lt _ _ inside]
  rfl

@[simp] theorem isHeld_eq (machine : Machine) (number : Nat) :
    isHeld machine number = some (machine.keypad.isHeld number) :=
  Table.read?_of_lt (Nat.mod_lt _ (by decide))

theorem push_eq {stack : Stack} (wellFormed : stack.WellFormed) (room : stack.isFull = false)
    (address : UInt16) : push stack address = some (stack.push address) := by
  obtain ⟨top, place, -⟩ := wellFormed.place_of_room room
  rw [push, place, Table.write?_of_lt top.isLt, Stack.push_of_place place]
  rfl

theorem pop_eq {stack : Stack} (wellFormed : stack.WellFormed) (used : stack.isEmpty = false) :
    pop stack = some stack.pop := by
  obtain ⟨top, place, -⟩ := wellFormed.place_of_used used
  simp only [pop, place, Table.read?_of_lt top.isLt, Table.write?_of_lt top.isLt,
    Stack.pop_of_place place]
  rfl

theorem call_eq (wellFormed : machine.stack.WellFormed) (target : Nat) :
    call machine target = some (machine.call target) := by
  cases room : machine.stack.isFull with
  | true => simp [call, Machine.call, room]
  | false =>
    by_cases fits : target ≤ lastInstruction <;>
      simp [call, Machine.call, room, fits, push_eq wellFormed room]

theorem returnFromCall_eq (wellFormed : machine.stack.WellFormed) :
    returnFromCall machine = some machine.returnFromCall := by
  cases used : machine.stack.isEmpty with
  | true => simp [returnFromCall, Machine.returnFromCall, used]
  | false => simp [returnFromCall, Machine.returnFromCall, used, pop_eq wellFormed used]

@[simp] theorem aluOperands_eq (machine : Machine) (operation : Alu.Operation) (x y : Register) :
    aluOperands machine operation x y = some (machine.aluOperands operation x y) := by
  simp only [aluOperands, register_eq, Machine.aluOperands]
  rfl

@[simp] theorem arithmetic_eq (machine : Machine) (operation : Alu.Operation) (x y : Register) :
    arithmetic machine operation x y = some (machine.arithmetic operation x y) := by
  simp only [arithmetic, Machine.arithmetic, aluOperands_eq, Option.bind_eq_bind, Option.bind_some,
    setRegister_eq]
  generalize machine.aluOperands operation x y = operands
  cases (Alu.evaluate operation operands.1 operands.2).2 <;> rfl

theorem guardSpan_eq (machine : Machine) (length : Nat) {action : Machine → Option Machine}
    {total : Machine → Machine}
    (agrees : machine.spanWritable length = true → action machine = some (total machine)) :
    guardSpan machine length action = some (machine.guardSpan length total) := by
  cases writable : machine.spanWritable length with
  | true => simp [guardSpan, Machine.guardSpan, writable, agrees writable]
  | false => simp [guardSpan, Machine.guardSpan, writable]

theorem storeDecimal_eq {x : Register} (writable : machine.spanWritable (3 : Nat) = true) :
    storeDecimal machine x =
      some (machine.storeAtIndex (Machine.decimalDigits (machine.registers.get x))) := by
  have span := (Machine.spanWritable_iff (by decide)).mp writable
  have length (value : UInt8) : (Machine.decimalDigits value).length = 3 := rfl
  have inside (value : UInt8) :
      machine.index.toNat + (Machine.decimalDigits value).length ≤ 4096 := by
    rw [length]
    exact span.2
  simp only [storeDecimal, register_eq, Option.bind_eq_bind, Option.bind_some,
    Table.store?_of_le (inside _), Machine.storeAtIndex, Option.pure_def]

theorem registerAddress_le {x : Register} (writable : machine.spanWritable (x + 1 : Nat) = true)
    (i : Register) : registerAddress machine x i ≤ 4096 := by
  have span := (Machine.spanWritable_iff (show x.val + 1 ≤ 0x10000 by omega)).mp writable
  unfold registerAddress
  split
  · rename_i low
    have order : i.val ≤ x.val := low
    exact Nat.le_trans (by omega) span.2
  · exact Nat.le_refl _

theorem registerAddress_eq_iff {x i : Register} {address : Nat} (inside : address < 4096) :
    registerAddress machine x i = address ↔
      i.val ≤ x.val ∧ machine.index.toNat + i.val = address := by
  have past : memorySize ≠ address := Nat.ne_of_gt inside
  unfold registerAddress
  split <;> rename_i order <;> simp only [Fin.le_def] at order <;> simp [order, past]

/-- What is written register by register is the run of the first of them. -/
theorem foldl_write_registers (machine : Machine) (x : Register) :
    ((List.finRange 16).map fun i => (registerAddress machine x i, machine.registers.get i)).foldl
        (fun memory w => Table.write memory w.1 w.2) machine.memory =
      Table.store machine.memory machine.index.toNat (machine.registers.toList.take (x + 1)) := by
  apply Vector.ext
  intro address inside
  rw [List.foldl_map, Table.getElem_store]
  have length : (machine.registers.toList.take (x.val + 1)).length = x.val + 1 := by
    rw [List.length_take, Vector.length_toList]
    omega
  split
  · rename_i written
    rw [length] at written
    have agree : ∀ i ∈ List.finRange 16, registerAddress machine x i = address →
        machine.registers.get i =
          machine.registers.get ⟨address - machine.index.toNat, by omega⟩ := by
      intro i _ here
      obtain ⟨-, place⟩ := (registerAddress_eq_iff inside).mp here
      exact congrArg machine.registers.get (Fin.ext (by dsimp only; omega))
    have listed : ∃ i ∈ List.finRange 16, registerAddress machine x i = address := by
      refine ⟨⟨address - machine.index.toNat, by omega⟩, List.mem_finRange _, ?_⟩
      rw [registerAddress_eq_iff inside]
      dsimp only
      omega
    rw [Table.getElem_foldl_write agree machine.memory inside, if_pos listed]
    simp only [List.get_eq_getElem, List.getElem_take, Vector.getElem_toList]
    rfl
  · rename_i outside
    rw [length] at outside
    have unlisted : ∀ i ∈ List.finRange 16, registerAddress machine x i ≠ address := by
      intro i _ here
      obtain ⟨low, place⟩ := (registerAddress_eq_iff inside).mp here
      omega
    have agree : ∀ i ∈ List.finRange 16, registerAddress machine x i = address →
        machine.registers.get i = machine.memory[address] :=
      fun i member here => absurd here (unlisted i member)
    rw [Table.getElem_foldl_write agree machine.memory inside]
    exact ite_self _

theorem storeRegisters_eq {x : Register} (writable : machine.spanWritable (x + 1 : Nat) = true) :
    storeRegisters machine x = some (machine.storeRegisters x) := by
  have places : ∀ w ∈ (List.finRange 16).map fun i =>
      (registerAddress machine x i, machine.registers.get i), w.1 ≤ 4096 := by
    intro w member
    obtain ⟨i, -, rfl⟩ := List.mem_map.mp member
    exact registerAddress_le writable i
  simp only [storeRegisters, Table.scatter?_of_le places, Option.bind_eq_bind, Option.bind_some,
    foldl_write_registers]
  rfl

theorem loadRegisters_eq {x : Register} (writable : machine.spanWritable (x + 1 : Nat) = true) :
    loadRegisters machine x = some (machine.loadRegisters x) := by
  have loaded (i : Register) :
      (if i ≤ x then Table.readOr machine.memory (registerAddress machine x i) 0
        else machine.registers.get i) =
      if i ≤ x then Table.readOr machine.memory (machine.index.toNat + i.val) 0
        else machine.registers.get i := by
    by_cases order : i ≤ x
    · simp [registerAddress, order]
    · simp [order]
  simp only [loadRegisters, Table.readMasked?_of_le (registerAddress_le writable _),
    Option.bind_eq_bind, Option.bind_some, loaded, Vector.ofFnM_pure]
  rfl

theorem awaitKey_eq (machine : Machine) (x : Register) :
    awaitKey machine x = some (machine.awaitKey x) := by
  have names : ∀ x : Fin 16, UInt8.ofNat x ≤ 15 := by decide
  have received (key : Fin 16) :
      receiveKey { machine with waiting := true, waitRegister := UInt8.ofNat x } key = some _ :=
    receiveKey_eq (names x) key
  simp only [awaitKey, Machine.awaitKey, received]
  cases machine.keypad.lowest? <;> rfl

theorem perform_eq (wellFormed : machine.stack.WellFormed) (instruction : Instruction) :
    perform machine instruction = some (machine.perform instruction) := by
  cases instruction with
  | clearScreen =>
    have inside : 0 + (List.replicate screenBytes (0 : UInt8)).length ≤ 4096 := by
      rw [List.length_replicate]
      decide
    rw [perform, Table.store?_of_le inside]
    rfl
  | ret => simp only [perform, returnFromCall_eq wellFormed]; rfl
  | call target => exact call_eq wellFormed target
  | storeDecimal x =>
    apply guardSpan_eq
    exact storeDecimal_eq
  | storeRegisters x =>
    apply guardSpan_eq
    exact storeRegisters_eq
  | loadRegisters x =>
    apply guardSpan_eq
    exact loadRegisters_eq
  | awaitKey x => exact awaitKey_eq machine x
  | draw x y height =>
    simp only [perform, register_eq, Option.bind_eq_bind, Option.bind_some, drawSprite_eq]
    rfl
  | _ => simp [perform, Machine.perform]

theorem execute_eq (wellFormed : machine.stack.WellFormed) (word : UInt16) :
    execute machine word = some (machine.execute word) := by
  rw [execute, perform_eq wellFormed]
  rfl

end Chip8.Checked
