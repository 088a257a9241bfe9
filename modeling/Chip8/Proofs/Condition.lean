import Chip8.Headless.Session

/-!
Conditions and the statuses they stand for. `Condition.ofStatus` loses nothing of the status, so what
a headless run decides by the condition of a frame it decides by the status.
-/

namespace Chip8

/-- The status that a report stands for. No condition at all stands for a clean one. -/
def Condition.statusOf : Option Condition → Option Status
  | none => some .ok
  | some condition => condition.status?

namespace Condition

theorem assigned?_code (status : Status) :
    Status.assigned? status.code.toNat = if status.code ≤ 5 then some status else none := by
  have back := Status.ofCode_code status
  by_cases small : status.code ≤ 5
  · have bound : status.code.toNat ≤ 5 := by simpa [UInt8.le_iff_toNat_le] using small
    have inside : (0 : Int) ≤ status.code.toNat ∧ (status.code.toNat : Int) ≤ 5 := by omega
    rw [Status.assigned?, if_pos inside, if_pos small, Int.toNat_natCast, UInt8.ofNat_toNat, back]
  · have bound : ¬ status.code.toNat ≤ 5 := by simpa [UInt8.le_iff_toNat_le] using small
    have outside : ¬ ((0 : Int) ≤ status.code.toNat ∧ (status.code.toNat : Int) ≤ 5) := by omega
    rw [Status.assigned?, if_neg outside, if_neg small]

theorem statusOf_of_ofStatus {status : Status} {word : Int} {condition : Option Condition}
    (given : ofStatus status.code.toNat word = .ok condition) :
    statusOf condition = some status := by
  rw [ofStatus, assigned?_code] at given
  cases status with
  | unassigned value unnamed =>
    have large : ¬ value ≤ 5 := by grind
    rw [Status.code, if_neg large] at given
    cases given
  | _ =>
    cases given
    rfl

theorem exists_ofStatus {status : Status} (assigned : status.code ≤ 5) (word : Int) :
    ∃ condition, ofStatus status.code.toNat word = .ok condition := by
  rw [ofStatus, assigned?_code, if_pos assigned]
  cases status with
  | unassigned value unnamed => exact absurd assigned (by simpa [Status.code] using unnamed)
  | _ => exact ⟨_, rfl⟩

end Condition

namespace Headless.Session

theorem isHalt_iff {condition : Option Condition} {status : Status}
    (reported : Condition.statusOf condition = some status) :
    isHalt condition = true ↔ status = .inputHalt := by
  cases condition with
  | none =>
    cases reported
    simp [isHalt]
  | some condition =>
    have known : condition.status? = some status := reported
    cases condition with
    | imageTooLarge size capacity => cases known
    | _ =>
      cases known
      simp [isHalt]

theorem stops_iff {config : Config} {condition : Option Condition} {status : Status}
    (reported : Condition.statusOf condition = some status) :
    stops config condition = true ↔
      status.isFatal = true ∨ (config.stopOnUnknown = true ∧ status = .noOp) := by
  cases condition with
  | none =>
    cases reported
    simp [stops]
  | some condition =>
    have known : condition.status? = some status := reported
    have unknown : Log.Logger.isUnknown condition = true ↔ status = .noOp := by
      cases condition with
      | imageTooLarge size capacity => cases known
      | _ =>
        cases known
        simp [Log.Logger.isUnknown]
    simp [stops, Condition.isFatal, known, unknown]

end Headless.Session

end Chip8
