import Chip8.Proofs.Machine.Lockstep
import Chip8.Proofs.Machine.Raises

/-!
Machines of different variants. A variant bears on the shifts, on the offset jump and on the two bulk
copies, and there only on what `Indifferent` excludes. Two machines that differ in their variants
alone go through the same states for as long as each word is indifferent to the difference.
-/

namespace Chip8

open Machine Word

namespace Periphery

def suited (variant : Variant) (periphery : Periphery) : Periphery := { periphery with variant }

theorem updated_variant (periphery : Periphery) (machine : Machine) (instruction : Instruction) :
    (periphery.updated machine instruction).variant = periphery.variant := by
  cases instruction <;> rfl

theorem updated_suited (variant : Variant) (machine : Machine) (instruction : Instruction)
    (periphery : Periphery) :
    (periphery.suited variant).updated machine instruction =
      (periphery.updated machine instruction).suited variant := by
  cases instruction <;> rfl

end Periphery

namespace Machine

variable {machine : Machine} {word : UInt16} {other : Variant}

/-- Another variant makes no difference to a word. Where a point differs that the word depends on, a
shift has one byte in both of its registers, an offset jump has one byte in both of its, and a bulk
copy fails. -/
structure Indifferent (machine : Machine) (word : UInt16) (other : Variant) : Prop where
  shift : other.shiftInPlace ≠ machine.variant.shiftInPlace →
    Matches "8XY6" word ∨ Matches "8XYE" word →
      machine.registers.get (x word) = machine.registers.get (y word)
  jump : other.jumpByRegister ≠ machine.variant.jumpByRegister → Matches "BNNN" word →
    machine.registers.get (x word) = machine.registers.get 0
  advance : other.advanceIndex ≠ machine.variant.advanceIndex →
    Matches "FX55" word ∨ Matches "FX65" word → machine.SpanOutside ((x word).val + 1)

theorem aluOperands_suited
    (shift : other.shiftInPlace ≠ machine.variant.shiftInPlace →
      machine.registers.get (x word) = machine.registers.get (y word))
    (operation : Alu.Operation) :
    (machine.fitted (machine.periphery.suited other)).aluOperands operation (x word) (y word) =
      machine.aluOperands operation (x word) (y word) := by
  by_cases same : other.shiftInPlace = machine.variant.shiftInPlace
  · simp only [aluOperands, fitted, Periphery.suited, same]
  · have source : machine.registers[x word] = machine.registers[y word] := shift same
    simp only [aluOperands, fitted_registers, source, ite_self]

theorem offsetRegister_suited
    (jump : other.jumpByRegister ≠ machine.variant.jumpByRegister →
      machine.registers.get (x word) = machine.registers.get 0) :
    machine.registers.get (offsetRegister other (address word)) =
      machine.registers.get (offsetRegister machine.variant (address word)) := by
  rw [offsetRegister_address, offsetRegister_address]
  by_cases same : other.jumpByRegister = machine.variant.jumpByRegister
  · rw [same]
  · split <;> split <;> simp only [jump same]

theorem advanceIndex_suited {length : Nat} (short : length ≤ 0x10000)
    (advance : other.advanceIndex ≠ machine.variant.advanceIndex → machine.SpanOutside length)
    (writable : machine.spanWritable length = true) :
    other.advanceIndex = machine.variant.advanceIndex := by
  by_contra differ
  have refused := (spanWritable_eq_false_iff machine short).mpr (advance differ)
  exact Bool.false_ne_true (refused.symm.trans writable)

theorem Indifferent.overlooks {instruction : Instruction}
    (indifferent : machine.Indifferent word other) (encodes : Encodes word instruction) :
    machine.Overlooks (machine.periphery.suited other) instruction := by
  have short : (x word).val + 1 ≤ 0x10000 := by omega
  cases encodes with
  | shiftRight form =>
    exact aluOperands_suited (fun differ => indifferent.shift differ (.inl form)) .shiftRight
  | shiftLeft form =>
    exact aluOperands_suited (fun differ => indifferent.shift differ (.inr form)) .shiftLeft
  | jumpOffset form => exact offsetRegister_suited fun differ => indifferent.jump differ form
  | storeRegisters form =>
    exact advanceIndex_suited short fun differ => indifferent.advance differ (.inl form)
  | loadRegisters form =>
    exact advanceIndex_suited short fun differ => indifferent.advance differ (.inr form)
  | _ => first | rfl | trivial

theorem unreported_suited (other : Variant) : Unreported (Periphery.suited other) :=
  fun _ _ _ => rfl

theorem passesOver_suited
    (indifferent : machine.fetched?.isSome = true → machine.Indifferent machine.nextWord other) :
    machine.PassesOver (Periphery.suited other) where
  ignores := by
    refine ⟨fun _ => rfl, fun instruction fetched => ?_⟩
    by_cases listed : instruction = .unknown
    · subst listed
      exact trivial
    · have encodes := (Instruction.decode_eq_iff listed).mp (fetched?_eq_some_iff.mp fetched).2.2
      exact (indifferent (Option.isSome_iff_exists.mpr ⟨instruction, fetched⟩)).overlooks encodes
  updated instruction _ := Periphery.updated_suited other machine instruction

theorem step_variant (machine : Machine) : machine.step.variant = machine.variant := by
  have kept := step_kept (fun _ _ _ => rfl) (machine.periphery.updated_variant machine)
  exact kept

theorem iterate_step_variant (machine : Machine) (steps : Nat) :
    (step^[steps] machine).variant = machine.variant := by
  induction steps with
  | zero => rfl
  | succ steps ih => rw [Function.iterate_succ_apply', step_variant, ih]

/-- A variant shows only in the words that it is about. Two machines that differ in nothing else stay
equal in everything else, their reports included, as long as the words that the first one executes
are indifferent to the difference. -/
theorem variants_in_step (machine : Machine) (other : Variant) (steps : Nat)
    (indifferent : ∀ i < steps, (step^[i] machine).fetched?.isSome = true →
      (step^[i] machine).Indifferent (step^[i] machine).nextWord other) :
    ∀ i ≤ steps, (step^[i] machine).variant = machine.variant ∧
      step^[i] { machine with variant := other } = { step^[i] machine with variant := other } := by
  intro i le
  refine ⟨iterate_step_variant machine i, ?_⟩
  have stepped := iterate_step_of_passesOver (unreported_suited other) fun j before =>
    passesOver_suited (indifferent j (Nat.lt_of_lt_of_le before le))
  exact stepped

def threeVariants : Machine :=
  { create ⟨0, 0⟩ {} with
    memory :=
      Table.store (Vector.replicate 4096 0) programStart [0x80, 0x06, 0xB2, 0x04, 0xF2, 0x55] }

/-- Its words are indifferent to all three points: the shift has one register, the jump finds the same
byte in V2 as in V0, and the copy fails. -/
theorem variants_in_step_threeVariants :
    (∀ i < 3, (step^[i] threeVariants).fetched?.isSome = true →
      (step^[i] threeVariants).Indifferent (step^[i] threeVariants).nextWord ⟨true, true, true⟩) ∧
    ∀ i ≤ 3, (step^[i] threeVariants).variant = threeVariants.variant ∧
      step^[i] { threeVariants with variant := ⟨true, true, true⟩ } =
        { step^[i] threeVariants with variant := ⟨true, true, true⟩ } := by
  have shift : ∀ i < 3,
      Matches "8XY6" (step^[i] threeVariants).nextWord ∨
        Matches "8XYE" (step^[i] threeVariants).nextWord →
      (step^[i] threeVariants).registers.get (x (step^[i] threeVariants).nextWord) =
        (step^[i] threeVariants).registers.get (y (step^[i] threeVariants).nextWord) := by
    decide +kernel
  have jump : ∀ i < 3, Matches "BNNN" (step^[i] threeVariants).nextWord →
      (step^[i] threeVariants).registers.get (x (step^[i] threeVariants).nextWord) =
        (step^[i] threeVariants).registers.get 0 := by
    decide +kernel
  have advance : ∀ i < 3,
      Matches "FX55" (step^[i] threeVariants).nextWord ∨
        Matches "FX65" (step^[i] threeVariants).nextWord →
      (step^[i] threeVariants).SpanOutside
        ((x (step^[i] threeVariants).nextWord).val + 1) := by
    decide +kernel
  have indifferent : ∀ i < 3, (step^[i] threeVariants).fetched?.isSome = true →
      (step^[i] threeVariants).Indifferent (step^[i] threeVariants).nextWord ⟨true, true, true⟩ :=
    fun i small _ => ⟨fun _ => shift i small, fun _ => jump i small, fun _ => advance i small⟩
  exact ⟨indifferent, variants_in_step threeVariants ⟨true, true, true⟩ 3 indifferent⟩

end Machine

end Chip8
