import Chip8.Decimal.Shortest

/-! Values of the settings and results that a log lists, and how they are written. -/

namespace Chip8.Log

inductive Value where
  | absent
  | truth (value : Bool)
  | whole (value : Int)
  | real (value : Float)
  | text (value : String)

/-- Reals are written without an exponent from 0.0001 up to below 10^16; an exponent has a sign and
at least two digits. -/
def Value.realStyle : Decimal.Style := ⟨(-3, 16), 2⟩

def Value.isListable : Value → Bool
  | whole value => Text.isListable value
  | _ => true

def Value.render : Value → String
  | absent => "None"
  | truth value => if value then "True" else "False"
  | whole value => Text.decimal value
  | real value => realStyle.text (Decimal.Binary.ofFloat value)
  | text value => value

end Chip8.Log
