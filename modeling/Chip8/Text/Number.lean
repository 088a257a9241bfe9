/-!
Whole numbers as text: decimal, and hexadecimal in capitals filled up to a least width. A minus sign
counts towards the width and stands before the filling zeros. Decimal text that is read or listed
has a limited length.
-/

namespace Chip8.Text

def padLeft (width : Nat) (fill : Char) (text : String) : String :=
  String.ofList (List.replicate (width - text.length) fill) ++ text

def decimal (number : Int) : String :=
  (if number < 0 then "-" else "") ++ String.ofList (Nat.toDigits 10 number.natAbs)

def digitLimit : Nat := 4300

def isListable (number : Int) : Bool := number.natAbs < Nat.pow 10 digitLimit

theorem isListable_of_lt {number : Int} (small : number.natAbs < 0x10000000000000000) :
    isListable number = true := by
  have fits : number.natAbs < 10 ^ 20 := by omega
  have below {digits : Nat} (enough : 20 ≤ digits) : number.natAbs < Nat.pow 10 digits :=
    Nat.lt_of_lt_of_le fits (Nat.pow_le_pow_right (by decide) enough)
  exact decide_eq_true (below (show 20 ≤ digitLimit by decide))

def hexDigits (number : Nat) : String :=
  String.ofList ((Nat.toDigits 16 number).map Char.toUpper)

def hex (width : Nat) (number : Int) : String :=
  if number < 0 then "-" ++ padLeft (width - 1) '0' (hexDigits number.natAbs)
  else padLeft width '0' (hexDigits number.natAbs)

end Chip8.Text
