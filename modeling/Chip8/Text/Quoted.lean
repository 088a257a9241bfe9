import Chip8.Text.Number
import Chip8.Text.Printable

/-!
Text in quotes, as messages show it. Apostrophes enclose it unless it holds an apostrophe and no
double quote. Backslashes and the enclosing quote are escaped, and so are the characters without a
printed form, by their code point in two, four or eight hexadecimal digits.
-/

namespace Chip8.Text

def apostrophe : Char := '\x27'

def doubleQuote : Char := '\x22'

def enclosing (text : List Char) : Char :=
  if text.contains apostrophe && !text.contains doubleQuote then doubleQuote else apostrophe

def smallHex (width number : Nat) : List Char :=
  (padLeft width '0' (String.ofList (Nat.toDigits 16 number))).toList

def escaped (quote c : Char) : List Char :=
  if c = quote ∨ c = '\\' then ['\\', c]
  else if c = '\n' then ['\\', 'n']
  else if c = '\r' then ['\\', 'r']
  else if c = '\t' then ['\\', 't']
  else if isPrintable c then [c]
  else if c.toNat < 0x100 then ['\\', 'x'] ++ smallHex 2 c.toNat
  else if c.toNat < 0x10000 then ['\\', 'u'] ++ smallHex 4 c.toNat
  else ['\\', 'U'] ++ smallHex 8 c.toNat

def quoted (text : String) : String :=
  let quote := enclosing text.toList
  String.ofList (quote :: text.toList.flatMap (escaped quote) ++ [quote])

end Chip8.Text
