import Chip8.Text.Digit
import Chip8.Text.Number

/-!
Reading whole numbers. White space around the number is skipped, a sign may precede it, and single
underscores may stand between its digits. In base 16 the letters a to f are digits, and the digits
may follow 0x, themselves after an underscore. In base 10 a number has at most `digitLimit` digits.
-/

namespace Chip8.Text

def alphanumericValue? (c : Char) : Option Nat :=
  if 'a' ≤ c ∧ c ≤ 'z' then some (c.toNat - 'a'.toNat + 10)
  else if 'A' ≤ c ∧ c ≤ 'Z' then some (c.toNat - 'A'.toNat + 10)
  else digitValue? c

def digitBelow? (base : Nat) (c : Char) : Option Nat :=
  (alphanumericValue? c).filter (· < base)

/-- Reads digits, one underscore allowed between two of them. -/
def readDigits? (base : Nat) : List Char → Option (List Nat)
  | [] => none
  | c :: rest => do
    let digit ← digitBelow? base c
    match rest with
    | [] => some [digit]
    | '_' :: more => (readDigits? base more).map (digit :: ·)
    | next :: more => (readDigits? base (next :: more)).map (digit :: ·)

def withoutMark (text : List Char) : List Char :=
  match text with
  | zero :: mark :: rest =>
    if digitValue? zero = some 0 ∧ (mark = 'x' ∨ mark = 'X') then
      match rest with
      | '_' :: digits => digits
      | digits => digits
    else text
  | _ => text

def readNatural? (base : Nat) (text : List Char) : Option Nat := do
  let digits ← readDigits? base (if base = 16 then withoutMark text else text)
  if base = 10 ∧ digitLimit < digits.length then none
  else some (digits.foldl (fun value digit => value * base + digit) 0)

def readInteger? (base : Nat) (text : String) : Option Int :=
  match trimBlanks text.toList with
  | '-' :: digits => (readNatural? base digits).map fun size => -(size : Int)
  | '+' :: digits => (readNatural? base digits).map fun size => (size : Int)
  | digits => (readNatural? base digits).map fun size => (size : Int)

/-- Whether a text is a minus sign and a plain decimal number, with or without a point. A line feed
may follow it. -/
def isNegativeNumber (text : String) : Bool :=
  match text.toList with
  | '-' :: rest =>
    let body := if rest.getLast? = some '\n' then rest.dropLast else rest
    let fraction := body.dropWhile isDecimalDigit
    match fraction with
    | [] => !body.isEmpty
    | '.' :: places => !places.isEmpty && places.all isDecimalDigit
    | _ => false
  | _ => false

end Chip8.Text
