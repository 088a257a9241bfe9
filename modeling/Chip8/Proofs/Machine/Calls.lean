import Chip8.Proofs.InstructionSet
import Chip8.Proofs.Machine.Frame
import Chip8.Proofs.Machine.Outcome
import Chip8.Proofs.Stack

/-!
Calls and returns as brackets. `Balanced` says which programs are bracketed, and how deep. On a
machine with room for that depth such a program leaves the stack as it was: `Balanced.bracketed`
goes through it word by word, and `calls_bracketed` reads off it that each return goes back to where
its call was made.
-/

namespace Chip8

open Word

/-- The programs in which each call is closed by a return, nested no deeper than a number. Their
calls lead to addresses at which an instruction fits. -/
inductive Balanced : Nat → List UInt16 → Prop
  | nil {depth : Nat} : Balanced depth []
  | plain {depth : Nat} {word : UInt16} {rest : List UInt16} :
    (∀ target, Instruction.decode word ≠ .call target) → Instruction.decode word ≠ .ret →
    Balanced depth rest → Balanced depth (word :: rest)
  | call {depth : Nat} {word : UInt16} {body rest : List UInt16} :
    Matches "2NNN" word → (address word).val ≤ 0xFFE → Balanced depth body →
    Balanced (depth + 1) rest → Balanced (depth + 1) (word :: (body ++ 0x00EE :: rest))

namespace Instruction

theorem decode_call {word : UInt16} (form : Matches "2NNN" word) :
    decode word = .call (address word) :=
  decode_of_encodes (.call form)

theorem decode_ret : decode 0x00EE = .ret := rfl

end Instruction

namespace Balanced

variable {depth : Nat} {word call ret : UInt16} {words body rest front after : List UInt16}

/-- Where a word stands in a bracketed part of a program and what follows it. -/
theorem split_call (split : call :: (body ++ ret :: rest) = front ++ word :: after) :
    (front = [] ∧ word = call) ∨
    (∃ inner tail, front = call :: inner ∧ body = inner ++ word :: tail ∧
      after = tail ++ ret :: rest) ∨
    (front = call :: body ∧ word = ret ∧ after = rest) ∨
    (∃ inner, front = call :: (body ++ ret :: inner) ∧ rest = inner ++ word :: after) := by
  cases front with
  | nil =>
    injection split with same
    exact .inl ⟨rfl, same.symm⟩
  | cons first inner =>
    injection split with same split
    subst same
    rcases List.append_eq_append_iff.mp split with ⟨middle, rfl, tail⟩ | ⟨middle, rfl, tail⟩
    · cases middle with
      | nil =>
        injection tail with same rest
        exact .inr (.inr (.inl ⟨by rw [List.append_nil], same.symm, rest.symm⟩))
      | cons second middle =>
        injection tail with same tail
        subst same
        exact .inr (.inr (.inr ⟨middle, rfl, tail⟩))
    · cases middle with
      | nil =>
        injection tail with same rest
        exact .inr (.inr (.inl ⟨by rw [List.append_nil], same, rest⟩))
      | cons second middle =>
        injection tail with same tail
        subst same
        exact .inr (.inl ⟨inner, middle, rfl, rfl, tail⟩)

def weight (word : UInt16) : Int :=
  match Instruction.decode word with
  | .call _ => 1
  | .ret => -1
  | _ => 0

def opened : List UInt16 → Int
  | [] => 0
  | word :: words => weight word + opened words

@[simp] theorem opened_nil : opened [] = 0 := rfl

@[simp] theorem opened_cons (word : UInt16) (words : List UInt16) :
    opened (word :: words) = weight word + opened words := rfl

@[simp] theorem opened_append (front back : List UInt16) :
    opened (front ++ back) = opened front + opened back := by
  induction front with
  | nil => simp
  | cons word front ih => simp [ih, Int.add_assoc]

theorem weight_call (form : Matches "2NNN" word) : weight word = 1 := by
  rw [weight, Instruction.decode_call form]

@[simp] theorem weight_ret : weight 0x00EE = -1 := by
  rw [weight, Instruction.decode_ret]

theorem weight_plain (noCall : ∀ target, Instruction.decode word ≠ .call target)
    (noReturn : Instruction.decode word ≠ .ret) : weight word = 0 := by
  cases decoded : Instruction.decode word with
  | call target => exact absurd decoded (noCall target)
  | ret => exact absurd decoded noReturn
  | _ => rw [weight, decoded]

theorem opened_eq_zero (balanced : Balanced depth words) : opened words = 0 := by
  induction balanced with
  | nil => rfl
  | plain noCall noReturn _ ih => rw [opened_cons, weight_plain noCall noReturn, ih, Int.add_zero]
  | call form _ _ _ inner outer => simp [weight_call form, inner, outer]

/-- No end of a bracketed program leaves calls open. -/
theorem opened_le_zero (balanced : Balanced depth words) (split : words = front ++ word :: after) :
    opened (word :: after) ≤ 0 := by
  induction balanced generalizing front after with
  | nil => simp at split
  | plain noCall noReturn rest ih =>
    cases front with
    | nil =>
      rw [List.nil_append] at split
      rw [← split, opened_cons, weight_plain noCall noReturn, opened_eq_zero rest]
      decide
    | cons first front =>
      injection split with _ split
      exact ih split
  | call form fits body rest inner outer =>
    rcases split_call split with ⟨rfl, rfl⟩ | ⟨front, tail, -, within, rfl⟩ | ⟨-, rfl, rfl⟩ |
      ⟨front, -, behind⟩
    · rw [List.nil_append] at split
      exact Int.le_of_eq (split ▸ opened_eq_zero (.call form fits body rest))
    · -- The return that closes the bracket is still to come and makes up for its call.
      have below := inner within
      rw [← List.cons_append, opened_append, opened_cons 0x00EE, weight_ret, opened_eq_zero rest]
      omega
    · rw [opened_cons, weight_ret, opened_eq_zero rest]
      decide
    · exact outer behind

/-- A call that a bracketed part follows to the end is never closed. -/
theorem not_open {inner : Nat} (balanced : Balanced depth (front ++ call :: body))
    (form : Matches "2NNN" call) (closed : Balanced inner body) : False := by
  have below := opened_le_zero balanced rfl
  rw [opened_cons, weight_call form, opened_eq_zero closed] at below
  exact absurd below (by decide)

/-- The call that a return closes is the only one it can close. -/
theorem opening_unique {other : UInt16} {before before' body' : List UInt16} {inner inner' : Nat}
    (same : before ++ call :: body = before' ++ other :: body')
    (form : Matches "2NNN" call) (form' : Matches "2NNN" other)
    (closed : Balanced inner body) (closed' : Balanced inner' body') : before = before' := by
  -- Of two calls the later one would stand in the part that follows the earlier one.
  rcases List.append_eq_append_iff.mp same with ⟨middle, rfl, tail⟩ | ⟨middle, rfl, tail⟩
  · cases middle with
    | nil => rw [List.append_nil]
    | cons first middle =>
      injection tail with _ tail
      exact (not_open (tail ▸ closed) form' closed').elim
  · cases middle with
    | nil => rw [List.append_nil]
    | cons first middle =>
      injection tail with _ tail
      exact (not_open (tail ▸ closed') form closed).elim

end Balanced

namespace Machine

variable {machine : Machine} {word call : UInt16} {depth : Nat}
  {words body front after : List UInt16}

def executeAll (machine : Machine) (words : List UInt16) : Machine := words.foldl execute machine

@[simp] theorem executeAll_nil (machine : Machine) : machine.executeAll [] = machine := rfl

@[simp] theorem executeAll_cons (machine : Machine) (word : UInt16) (words : List UInt16) :
    machine.executeAll (word :: words) = (machine.execute word).executeAll words := rfl

@[simp] theorem executeAll_append (machine : Machine) (front back : List UInt16) :
    machine.executeAll (front ++ back) = (machine.executeAll front).executeAll back :=
  List.foldl_append

theorem execute_stack_of_plain (noCall : ∀ target, Instruction.decode word ≠ .call target)
    (noReturn : Instruction.decode word ≠ .ret) : (machine.execute word).stack = machine.stack := by
  have untouched : .stack ∉ (Instruction.decode word).parts := by
    cases decoded : Instruction.decode word with
    | call target => exact absurd decoded (noCall target)
    | ret => exact absurd decoded noReturn
    | _ => simp
  rw [execute_eq]
  exact (perform_frame machine _).stack untouched

theorem execute_call (form : Matches "2NNN" call) (fits : (address call).val ≤ 0xFFE)
    (room : machine.stack.isFull = false) :
    machine.execute call =
      { machine with
        stack := machine.stack.push machine.pc, pc := UInt16.ofNat (address call), status := .ok } := by
  have entered : machine.perform (.call (address call)) =
      ({ machine with
          stack := machine.stack.push machine.pc, pc := UInt16.ofNat (address call) }, .ok) := by
    rw [perform, Machine.call, room, if_neg Bool.false_ne_true,
      if_pos (show (address call).val ≤ lastInstruction from fits)]
  rw [execute_eq, Instruction.decode_call form, entered]
  rfl

theorem execute_call_of_full (form : Matches "2NNN" call) (full : machine.stack.isFull = true) :
    machine.execute call = machine.reported .stackOverflow call := by
  have failed : machine.perform (.call (address call)) = (machine, .stackOverflow) := by
    rw [perform, Machine.call, if_pos full]
  rw [execute_eq, Instruction.decode_call form, failed]
  rfl

theorem execute_ret (used : machine.stack.isEmpty = false) :
    machine.execute 0x00EE =
      { machine with stack := machine.stack.pop.2, pc := machine.stack.pop.1, status := .ok } := by
  have left : machine.perform .ret =
      ({ machine with stack := machine.stack.pop.2, pc := machine.stack.pop.1 }, .ok) := by
    rw [perform, returnFromCall, used, if_neg Bool.false_ne_true]
  rw [execute_eq, Instruction.decode_ret, left]
  rfl

theorem execute_ret_of_empty (empty : machine.stack.isEmpty = true) :
    machine.execute 0x00EE = { machine with status := .ok } := by
  have stays : machine.perform .ret = (machine, .ok) := by
    rw [perform, returnFromCall, if_pos empty]
  rw [execute_eq, Instruction.decode_ret, stays]
  rfl

structure HasRoom (machine : Machine) (depth : Nat) : Prop where
  wellFormed : machine.stack.WellFormed
  bound : machine.stack.pointer.toInt + depth ≤ 16

theorem HasRoom.of_stack_eq {other : Machine} (room : machine.HasRoom depth)
    (same : other.stack = machine.stack) : other.HasRoom depth :=
  ⟨same ▸ room.wellFormed, same ▸ room.bound⟩

theorem HasRoom.isFull (room : machine.HasRoom (depth + 1)) : machine.stack.isFull = false := by
  have bound := room.bound
  rw [← Bool.not_eq_true, Stack.isFull_iff]
  omega

theorem HasRoom.execute_call (room : machine.HasRoom (depth + 1)) (form : Matches "2NNN" call)
    (fits : (address call).val ≤ 0xFFE) : (machine.execute call).HasRoom depth := by
  have bound := room.bound
  have pointer := room.wellFormed.pointer_push room.isFull machine.pc
  rw [Machine.execute_call form fits room.isFull]
  refine ⟨room.wellFormed.push room.isFull machine.pc, ?_⟩
  dsimp only
  omega

theorem HasRoom.execute_ret {inside : Machine} (room : machine.HasRoom (depth + 1))
    (form : Matches "2NNN" call) (fits : (address call).val ≤ 0xFFE)
    (kept : inside.stack = (machine.execute call).stack) :
    (inside.execute 0x00EE).stack = machine.stack ∧ (inside.execute 0x00EE).pc = machine.pc := by
  have pointer := room.wellFormed.pointer_push room.isFull machine.pc
  have low := room.wellFormed.low
  have pushed : inside.stack = machine.stack.push machine.pc := by
    rw [kept, Machine.execute_call form fits room.isFull]
  have used : inside.stack.isEmpty = false := by
    rw [← Bool.not_eq_true, Stack.isEmpty_iff, pushed]
    omega
  rw [Machine.execute_ret used, pushed, room.wellFormed.pop_push room.isFull]
  exact ⟨rfl, rfl⟩

/-- A bracketed program leaves the stack as it was. -/
theorem executeAll_stack (balanced : Balanced depth words) (room : machine.HasRoom depth) :
    (machine.executeAll words).stack = machine.stack := by
  induction balanced generalizing machine with
  | nil => rfl
  | plain noCall noReturn _ ih =>
    have kept : (machine.execute _).stack = _ := execute_stack_of_plain noCall noReturn
    rw [executeAll_cons, ih (room.of_stack_eq kept), kept]
  | call form fits _ _ inner outer =>
    have within := inner (room.execute_call form fits)
    have closed := (room.execute_ret form fits within).1
    rw [executeAll_cons, executeAll_append, executeAll_cons, outer (room.of_stack_eq closed), closed]

/-- What a word does in a bracketed program, after the words in front of it. A call does not fail,
and a return takes pc back to where it was before the call that the return closes. -/
structure Bracketed (machine : Machine) (front : List UInt16) (word : UInt16) : Prop where
  call : Matches "2NNN" word → ((machine.executeAll front).execute word).status = .ok
  ret : word = 0x00EE → ∃ before call body depth, front = before ++ call :: body ∧
    Matches "2NNN" call ∧ Balanced depth body ∧
    ((machine.executeAll front).execute word).pc = (machine.executeAll before).pc

theorem Bracketed.prepend {earlier : List UInt16}
    (bracketed : Bracketed (machine.executeAll earlier) front word) :
    Bracketed machine (earlier ++ front) word := by
  constructor
  · intro form
    rw [executeAll_append]
    exact bracketed.call form
  · intro same
    obtain ⟨before, call, body, depth, rfl, form, closed, back⟩ := bracketed.ret same
    refine ⟨earlier ++ before, call, body, depth, ?_, form, closed, ?_⟩
    · rw [List.append_assoc]
    · rw [executeAll_append machine earlier, executeAll_append machine earlier]
      exact back

theorem bracketed_plain (machine : Machine) (front : List UInt16)
    (noCall : ∀ target, Instruction.decode word ≠ .call target)
    (noReturn : Instruction.decode word ≠ .ret) : Bracketed machine front word := by
  constructor
  · intro form
    exact absurd (Instruction.decode_call form) (noCall _)
  · rintro rfl
    exact absurd Instruction.decode_ret noReturn

theorem HasRoom.bracketed_call (room : machine.HasRoom (depth + 1)) (form : Matches "2NNN" call)
    (fits : (address call).val ≤ 0xFFE) : Bracketed machine [] call := by
  constructor
  · intro _
    rw [executeAll_nil, Machine.execute_call form fits room.isFull]
  · rintro rfl
    exact absurd form (by decide)

theorem HasRoom.bracketed_ret (room : machine.HasRoom (depth + 1)) (form : Matches "2NNN" call)
    (fits : (address call).val ≤ 0xFFE) (closed : Balanced depth body) :
    Bracketed machine (call :: body) 0x00EE := by
  have kept := executeAll_stack closed (room.execute_call form fits)
  constructor
  · intro form
    exact absurd form (by decide)
  · intro _
    exact ⟨[], call, body, depth, rfl, form, closed, (room.execute_ret form fits kept).2⟩

theorem bracketed_of_balanced (balanced : Balanced depth words) (room : machine.HasRoom depth)
    (split : words = front ++ word :: after) : Bracketed machine front word := by
  induction balanced generalizing machine front after with
  | nil => simp at split
  | @plain _ first _ noCall noReturn _ ih =>
    cases front with
    | nil =>
      injection split with same
      subst same
      exact bracketed_plain machine [] noCall noReturn
    | cons second front =>
      injection split with same split
      subst same
      have kept : (machine.execute first).stack = _ := execute_stack_of_plain noCall noReturn
      have later : Bracketed (machine.executeAll [first]) front word :=
        ih (room.of_stack_eq kept) split
      exact later.prepend
  | @call depth opening body rest form fits inside _ inner outer =>
    have entered := room.execute_call form fits
    have closes := (room.execute_ret form fits (executeAll_stack inside entered)).1
    -- The word opens the bracket, stands inside it, closes it, or comes after it.
    rcases Balanced.split_call split with ⟨rfl, rfl⟩ | ⟨front, tail, rfl, within, -⟩ |
      ⟨rfl, rfl, -⟩ | ⟨front, rfl, behind⟩
    · exact room.bracketed_call form fits
    · have later : Bracketed (machine.executeAll [opening]) front word := inner entered within
      exact later.prepend
    · exact room.bracketed_ret form fits inside
    · have later : Bracketed (machine.executeAll (opening :: (body ++ [0x00EE]))) front word := by
        refine outer (room.of_stack_eq ?_) behind
        simpa using closes
      simpa using later.prepend

/-- Calls and returns are properly bracketed: a bracketed program that fits the stack leaves it as it
was, its calls succeed, and each return goes back to its call. A call beyond the last slot and a
return without a call leave both the stack and pc as they are. -/
theorem calls_bracketed (wellFormed : machine.stack.WellFormed)
    (room : machine.stack.pointer.toInt + depth ≤ 16) (balanced : Balanced depth words) :
    (machine.executeAll words).stack = machine.stack ∧
    (∀ front call after, words = front ++ call :: after → Matches "2NNN" call →
      ((machine.executeAll front).execute call).status = .ok) ∧
    (∀ front after, words = front ++ 0x00EE :: after →
      ∃ before call body depth, front = before ++ call :: body ∧ Matches "2NNN" call ∧
        Balanced depth body) ∧
    (∀ before call body after depth, words = before ++ call :: (body ++ 0x00EE :: after) →
      Matches "2NNN" call → Balanced depth body →
      (machine.executeAll (before ++ call :: (body ++ [0x00EE]))).pc =
        (machine.executeAll before).pc) ∧
    (∀ (machine : Machine) (word : UInt16), machine.stack.pointer = 16 → Matches "2NNN" word →
      (machine.execute word).status = .stackOverflow ∧
        (machine.execute word).stack = machine.stack ∧ (machine.execute word).pc = machine.pc) ∧
    (∀ machine : Machine, machine.stack.pointer = 0 →
      (machine.execute 0x00EE).stack = machine.stack ∧ (machine.execute 0x00EE).pc = machine.pc) := by
  have fits : machine.HasRoom depth := ⟨wellFormed, room⟩
  refine ⟨executeAll_stack balanced fits, ?_, ?_, ?_, ?_, ?_⟩
  · intro front call after split form
    exact (bracketed_of_balanced balanced fits split).call form
  · intro front after split
    obtain ⟨before, call, body, depth, opens, form, closed, -⟩ :=
      (bracketed_of_balanced balanced fits split).ret rfl
    exact ⟨before, call, body, depth, opens, form, closed⟩
  · intro before call body after depth split form closed
    have split' : words = (before ++ call :: body) ++ 0x00EE :: after := by
      rw [split, List.append_assoc, List.cons_append]
    obtain ⟨before', call', body', depth', opens, form', closed', back⟩ :=
      (bracketed_of_balanced balanced fits split').ret rfl
    obtain rfl : before = before' := Balanced.opening_unique opens form form' closed closed'
    rw [← back]
    simp
  · intro machine word top form
    have full : machine.stack.isFull = true := by
      rw [Stack.isFull, top]
      rfl
    rw [execute_call_of_full form full]
    exact ⟨rfl, rfl, rfl⟩
  · intro machine bottom
    have empty : machine.stack.isEmpty = true := by
      rw [Stack.isEmpty, bottom]
      rfl
    rw [execute_ret_of_empty empty]
    exact ⟨rfl, rfl⟩

def nestedCalls : List UInt16 := [0x2300, 0x6001, 0x2FFE, 0x00EE, 0x00EE]

def deep : Machine :=
  { create ⟨0, 0⟩ {} with
    stack := ⟨Vector.ofFn fun i => if i.val < 14 then 0x0202 else 0, 14⟩ }

theorem wellFormed_deep : deep.stack.WellFormed where
  low := by decide
  high := by decide
  free := by decide

theorem balanced_nestedBody : Balanced 1 [0x6001, 0x2FFE, 0x00EE] := by
  have inner : Balanced 1 (0x2FFE :: ([] ++ 0x00EE :: [])) :=
    .call (by decide) (by decide) .nil .nil
  have decoded : Instruction.decode 0x6001 = .setByte 0 1 := rfl
  refine .plain ?_ ?_ inner
  · intro target
    rw [decoded]
    exact Instruction.noConfusion
  · rw [decoded]
    exact Instruction.noConfusion

theorem balanced_nestedCalls : Balanced 2 nestedCalls := by
  have outer : Balanced 2 (0x2300 :: ([0x6001, 0x2FFE, 0x00EE] ++ 0x00EE :: [])) :=
    .call (by decide) (by decide) balanced_nestedBody .nil
  exact outer

theorem calls_bracketed_nestedCalls :
    deep.stack.WellFormed ∧ deep.stack.pointer.toInt + (2 : Nat) ≤ 16 ∧ Balanced 2 nestedCalls ∧
      (deep.executeAll nestedCalls).stack = deep.stack ∧
      ((deep.executeAll [0x2300, 0x6001]).execute 0x2FFE).status = .ok ∧
      (deep.executeAll nestedCalls).pc = deep.pc := by
  have room : deep.stack.pointer.toInt + (2 : Nat) ≤ 16 := by decide
  obtain ⟨kept, calls, -, returns, -⟩ := calls_bracketed wellFormed_deep room balanced_nestedCalls
  have called := calls [0x2300, 0x6001] 0x2FFE [0x00EE, 0x00EE] rfl (by decide)
  have back := returns [] 0x2300 [0x6001, 0x2FFE, 0x00EE] [] 1 rfl (by decide) balanced_nestedBody
  exact ⟨wellFormed_deep, room, balanced_nestedCalls, kept, called, back⟩

end Machine

end Chip8
