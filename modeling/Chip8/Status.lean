/-!
The status register of the machine. Six of its 256 codes are assigned: a clean instruction, two that
let execution go on later, and three fatal ones. The register may hold any code, since a host can
write it, so the other codes are values of the type too, and `ofCode_code` and `code_ofCode` say
that a status and its code determine each other.
-/

namespace Chip8

inductive Status where
  | ok
  | noOp
  | inputHalt
  | stackOverflow
  | invalidAddress
  | memoryWrite
  | unassigned (value : UInt8) (unnamed : 5 < value)
  deriving DecidableEq

namespace Status

def code : Status → UInt8
  | ok => 0
  | noOp => 1
  | inputHalt => 2
  | stackOverflow => 3
  | invalidAddress => 4
  | memoryWrite => 5
  | unassigned value _ => value

def ofCode (value : UInt8) : Status :=
  if unnamed : 5 < value then unassigned value unnamed
  else if value = 0 then ok
  else if value = 1 then noOp
  else if value = 2 then inputHalt
  else if value = 3 then stackOverflow
  else if value = 4 then invalidAddress
  else memoryWrite

def assigned? (number : Int) : Option Status :=
  if 0 ≤ number ∧ number ≤ 5 then some (ofCode (UInt8.ofNat number.toNat)) else none

/-- Whether the status ends a batch with the machine left as it was before the instruction. Codes
without a meaning count as fatal. -/
def isFatal (status : Status) : Bool := 3 ≤ status.code

def consumed (status : Status) : Bool := status.code ≤ 1

@[simp] theorem ofCode_code (status : Status) : ofCode status.code = status := by
  cases status with
  | unassigned value unnamed => simp [code, ofCode, unnamed]
  | _ => rfl

theorem code_ofCode (value : UInt8) : (ofCode value).code = value := by
  grind [ofCode, code]

@[simp] theorem isFatal_ok : isFatal ok = false := rfl

theorem ne_ok_of_isFatal {status : Status} (fatal : status.isFatal = true) : status ≠ ok := by
  intro clean
  rw [clean] at fatal
  exact Bool.noConfusion fatal

theorem consumed_iff {status : Status} : status.consumed = true ↔ status = .ok ∨ status = .noOp := by
  cases status with
  | unassigned value unnamed =>
    have large : ¬ value ≤ 1 := by grind
    simp [consumed, code, large]
  | _ => decide

theorem consumed_eq_false_iff {status : Status} :
    status.consumed = false ↔ status = .inputHalt ∨ status.isFatal = true := by
  cases status with
  | unassigned value unnamed =>
    have large : ¬ value ≤ 1 ∧ 3 ≤ value := by grind
    simp [consumed, isFatal, code, large]
  | _ => decide

theorem isFatal_or_eq_noOp_iff {status : Status} (unclean : status ≠ ok) :
    status.isFatal = true ∨ status = noOp ↔ status ≠ inputHalt := by
  cases status with
  | ok => exact absurd rfl unclean
  | unassigned value unnamed =>
    have large : 3 ≤ value := by grind
    simp [isFatal, code, large]
  | _ => decide

end Status

end Chip8
