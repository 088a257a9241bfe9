import Chip8.Text.Number

/-!
Requests that the host makes and the machine refuses. A refused request changes nothing.
-/

namespace Chip8

inductive ReadFailure where
  | missing
  | directory
  | notDirectory
  /-- The path holds a character that no path can hold. -/
  | pathInvalid
  | other
  deriving DecidableEq, Repr

def isPath (text : String) : Bool := text.toList.all (· != '\x00')

inductive HostError where
  | imageTooLarge (size capacity : Nat)
  | outOfRange (number : Int)
  | unknownStatus (code : Int)
  | spanTooShort (address : Int) (length : Nat)
  | frameRateZero
  | imageUnreadable (path : String) (failure : ReadFailure)
  | numberTooLong
  | valueBlank (option : String)
  deriving DecidableEq, Repr

def ReadFailure.message : ReadFailure → String
  | missing => "no such file"
  | directory => "the path names a directory"
  | notDirectory => "the path leads through a file"
  | pathInvalid => "no file can have this path"
  | other => "the file cannot be read"

namespace HostError

def imageMessage (size capacity : Int) : String :=
  "error loading ROM: size exceeds CHIP-8 memory limit (" ++ Text.decimal size ++ " > " ++
    Text.decimal capacity ++ " bytes)"

def message : HostError → String
  | imageTooLarge size capacity => imageMessage size capacity
  | outOfRange number => Text.decimal number ++ " does not fit a machine number"
  | unknownStatus code => Text.decimal code ++ " is not a valid Status"
  | spanTooShort address length =>
    Text.decimal length ++ " bytes do not fit into memory at " ++ Text.decimal address
  | frameRateZero => "the frame rate is zero"
  | imageUnreadable path failure => failure.message ++ ": " ++ path
  | numberTooLong => "a number has too many digits"
  | valueBlank option => "the value of " ++ option ++ " is blank"

theorem bind_eq_ok_iff {α β : Type} {request : Except HostError α} {next : α → Except HostError β}
    {result : β} :
    (request >>= next) = .ok result ↔ ∃ value, request = .ok value ∧ next value = .ok result := by
  cases request with
  | error refused => simp [bind, Except.bind]
  | ok value => simp [bind, Except.bind]

end HostError

end Chip8
