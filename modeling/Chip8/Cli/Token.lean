import Chip8.Cli.UsageError
import Chip8.Text.Integer

/-!
Sorting the words of a command line into options and values. A word is an option if it begins with a
hyphen, and a long option may be cut short as long as it stays unambiguous. A lone hyphen, a
negative number, and an unknown word with a space in it are values. The first `--` ends the options:
all words after it are values.
-/

namespace Chip8.Cli

inductive Attached where
  | nothing
  | equals (text : String)
  /-- After a one-letter option, with or without an equals sign. -/
  | joined (text : String)
  deriving DecidableEq, Repr

inductive Token where
  | value (text : String)
  | separator
  | option (flag : Flag) (attached : Attached)
  | unknown (text : String)
  deriving DecidableEq, Repr

namespace Token

def isBlankSpace (c : Char) : Bool := c = ' '

def cutAtEquals (text : List Char) : List Char × Option (List Char) :=
  match text.dropWhile (· != '=') with
  | [] => (text, none)
  | _ :: after => (text.takeWhile (· != '='), some after)

def attachedOf : Option (List Char) → Attached
  | some after => .equals (String.ofList after)
  | none => .nothing

def attachedTo (spelling : List Char) (after : List Char) : Attached :=
  if spelling.length = 2 then .joined (String.ofList after) else .equals (String.ofList after)

/-- The spellings that a long word, without its value, is a beginning of. -/
def longMatches (start : List Char) : List (String × Flag) :=
  Flag.catalogue.filter fun entry => start.isPrefixOf entry.1.toList

/-- The options that a word may stand for when it is no option's exact spelling. -/
def candidates (text : List Char) : List (String × Flag × Attached) :=
  match text with
  | '-' :: '-' :: _ =>
    let (start, after) := cutAtEquals text
    (longMatches start).map fun entry => (entry.1, entry.2, attachedOf after)
  | hyphen :: letter :: rest =>
    (Flag.catalogue.filter fun entry => entry.1.toList = [hyphen, letter]).map fun entry =>
      (entry.1, entry.2, Attached.joined (String.ofList rest))
  | _ => []

def ofInexact (text : String) : Except UsageError Token :=
  match candidates text.toList with
  | [(_, flag, attached)] => .ok (.option flag attached)
  | [] =>
    if Text.isNegativeNumber text || text.toList.any isBlankSpace then .ok (.value text)
    else .ok (.unknown text)
  | several => .error (.ambiguous text (several.map fun entry => entry.1))

def ofWord (text : String) : Except UsageError Token :=
  match text.toList with
  | ['-'] => .ok (.value text)
  | '-' :: _ =>
    match Flag.spelled? text with
    | some flag => .ok (.option flag .nothing)
    | none =>
      let (start, after) := cutAtEquals text.toList
      match after, Flag.spelled? (String.ofList start) with
      | some after, some flag => .ok (.option flag (attachedTo start after))
      | _, _ => ofInexact text
  | _ => .ok (.value text)

def ofWords : List String → Except UsageError (List Token)
  | [] => .ok []
  | word :: rest =>
    if word = "--" then .ok (.separator :: rest.map .value)
    else do
      let token ← ofWord word
      let tokens ← ofWords rest
      return token :: tokens

end Token

end Chip8.Cli
