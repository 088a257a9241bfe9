import Chip8.Cli.Flag
import Chip8.Text.Quoted

/-! What can be wrong with a command line, and how it is reported. -/

namespace Chip8.Cli

inductive UsageError where
  | ambiguous (text : String) (spellings : List String)
  | valueMissing (flag : Flag)
  | valueIgnored (flag : Flag) (text : String)
  | valueInvalid (flag : Flag) (kind text : String)
  | notPositive (flag : Flag) (text : String)
  | notAmong (flag : Flag) (text : String) (choices : List String)
  | argumentMissing (name : String)
  | unrecognized (texts : List String)
  deriving DecidableEq, Repr

namespace UsageError

def about (flag : Flag) (text : String) : String := "argument " ++ flag.title ++ ": " ++ text

def message : UsageError → String
  | ambiguous text spellings =>
    "ambiguous option: " ++ text ++ " could match " ++ ", ".intercalate spellings
  | valueMissing flag => about flag "expected one argument"
  | valueIgnored flag text => about flag ("ignored explicit argument " ++ Text.quoted text)
  | valueInvalid flag kind text =>
    about flag ("invalid " ++ kind ++ " value: " ++ Text.quoted text)
  | notPositive flag text => about flag ("expected a positive integer, got " ++ text)
  | notAmong flag text choices =>
    about flag ("invalid choice: " ++ Text.quoted text ++ " (choose from " ++
      ", ".intercalate (choices.map Text.quoted) ++ ")")
  | argumentMissing name => "the following arguments are required: " ++ name
  | unrecognized texts => "unrecognized arguments: " ++ " ".intercalate texts

end UsageError

end Chip8.Cli
