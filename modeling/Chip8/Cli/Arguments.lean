import Chip8.Cli.Token
import Chip8.Headless.Config
import Chip8.Log.Level

/-!
Reading a command line: one image, any options. Values may stand before, between and after the
options; the first is the image and further ones are refused at the end. Of an option given several
times the last value counts. The value `--`, which only the word of the option itself can hold,
leaves the option blank.
-/

namespace Chip8.Cli

structure Arguments where
  config : Headless.Config := {}
  showDisplay : Bool := false
  /-- The options that were left blank. Their settings in `config` do not count. -/
  blanks : List Flag := []
  deriving DecidableEq, Repr

inductive Exit where
  | help
  | usage (error : UsageError)
  deriving DecidableEq, Repr

namespace Exit

def code : Exit → Nat
  | help => 0
  | usage _ => 2

def message : Exit → String
  | help => ""
  | usage error => error.message

end Exit

namespace Arguments

def readNumber (flag : Flag) (base : Nat) (kind text : String) : Except UsageError Int :=
  match Text.readInteger? base text with
  | some number => .ok number
  | none => .error (.valueInvalid flag kind text)

def readPositive (flag : Flag) (text : String) : Except UsageError Int := do
  let number ← readNumber flag 10 "positive_int" text
  if number ≤ 0 then .error (.notPositive flag text) else .ok number

def readLevel (flag : Flag) (text : String) : Except UsageError String :=
  let choices := Log.Level.all.map Log.Level.name
  if choices.contains text then .ok text else .error (.notAmong flag text choices)

def withValue (config : Headless.Config) (flag : Flag) (text : String) :
    Except UsageError Headless.Config := do
  match flag with
  | .frames => return { config with frames := ← readNumber flag 10 "int" text }
  | .frequency => return { config with frequency := ← readPositive flag text }
  | .fps => return { config with frameRate := ← readPositive flag text }
  | .seed => return { config with seed := ← readNumber flag 10 "int" text }
  | .haltKey => return { config with haltKey := some (← readNumber flag 16 "<lambda>" text) }
  | .logLevel => return { config with logLevel := ← readLevel flag text }
  | _ => return config

def setValue (arguments : Arguments) (flag : Flag) (text : String) :
    Except UsageError Arguments := do
  if text = "--" then return { arguments with blanks := flag :: arguments.blanks }
  else
    let config ← withValue arguments.config flag text
    return { arguments with config, blanks := arguments.blanks.filter (· != flag) }

def setSwitch (arguments : Arguments) (flag : Flag) : Arguments :=
  let config := arguments.config
  let variant := config.variant
  match flag with
  | .shiftVx =>
    { arguments with config := { config with variant := { variant with shiftInPlace := true } } }
  | .jumpVx =>
    { arguments with config := { config with variant := { variant with jumpByRegister := true } } }
  | .incrementIndex =>
    { arguments with config := { config with variant := { variant with advanceIndex := true } } }
  | .stopOnNoop => { arguments with config := { config with stopOnUnknown := true } }
  | .noProgress => { arguments with config := { config with progress := false } }
  | .showDisplay => { arguments with showDisplay := true }
  | _ => arguments

structure Progress where
  arguments : Arguments := {}
  image? : Option String := none
  extras : List String := []

/-- Text joined to a one-letter option reads as further one-letter options. As `-h` is the only one,
help follows if all letters are that one, and the text from the first other character on is
refused. -/
def joinedExit (flag : Flag) : List Char → Exit
  | ['h'] => .help
  | 'h' :: rest => joinedExit flag rest
  | text => .usage (.valueIgnored flag (String.ofList text))

def Progress.takeOption (progress : Progress) (flag : Flag) (attached : Attached) :
    Except Exit Progress :=
  match attached with
  | .equals text =>
    if flag.takesValue then
      match progress.arguments.setValue flag text with
      | .ok arguments => .ok { progress with arguments }
      | .error error => .error (.usage error)
    else .error (.usage (.valueIgnored flag text))
  | .joined text => .error (joinedExit flag text.toList)
  | .nothing =>
    if flag = .help then .error .help
    else if flag.takesValue then .error (.usage (.valueMissing flag))
    else .ok { progress with arguments := progress.arguments.setSwitch flag }

def Progress.addExtra (progress : Progress) (text : String) : Progress :=
  { progress with extras := progress.extras ++ [text] }

/-- Reads the sorted words from left to right. A `--` next to the image belongs to it, and any other
is refused like a second image. -/
def consume (progress : Progress) : List Token → Except Exit Progress
  | [] => .ok progress
  | .option flag .nothing :: .value text :: rest =>
    if flag.takesValue then
      match progress.arguments.setValue flag text with
      | .ok arguments => consume { progress with arguments } rest
      | .error error => .error (.usage error)
    else
      match progress.takeOption flag .nothing with
      | .ok progress => consume progress (.value text :: rest)
      | .error exit => .error exit
  | .option flag attached :: rest =>
    match progress.takeOption flag attached with
    | .ok progress => consume progress rest
    | .error exit => .error exit
  | .unknown text :: rest => consume (progress.addExtra text) rest
  | .value text :: .separator :: rest =>
    match progress.image? with
    | none => consume { progress with image? := some text } rest
    | some _ => consume (progress.addExtra text) (.separator :: rest)
  | .value text :: rest =>
    match progress.image? with
    | none => consume { progress with image? := some text } rest
    | some _ => consume (progress.addExtra text) rest
  | .separator :: .value text :: rest =>
    match progress.image? with
    | none => consume { progress with image? := some text } rest
    | some _ => consume (progress.addExtra "--") (.value text :: rest)
  | .separator :: rest => consume (progress.addExtra "--") rest
termination_by tokens => tokens.length

def Progress.finish (progress : Progress) : Except Exit Arguments :=
  -- A missing image is reported before words that are left over.
  match progress.image? with
  | none => .error (.usage (.argumentMissing "rom"))
  | some image =>
    if progress.extras.isEmpty then
      let config := { progress.arguments.config with imagePath := image }
      .ok { progress.arguments with config }
    else .error (.usage (.unrecognized progress.extras))

def parse (words : List String) : Except Exit Arguments :=
  match Token.ofWords words with
  | .error error => .error (.usage error)
  | .ok tokens => do (← consume {} tokens).finish

end Arguments

end Chip8.Cli
