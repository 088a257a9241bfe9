import Chip8.Condition
import Chip8.Log.Logger
import Chip8.Log.Value

/-!
What a log holds about a run: its settings, the conditions met, and a summary. Conditions are
counted whether or not their records pass the threshold. A fatal condition is an error, the first
unknown instruction a warning, and any other condition is of interest to debugging only.
-/

namespace Chip8.Log.Logger

def ruler : String := String.ofList (List.replicate 60 '=')

def listing (logger : Logger) (entries : List (String × String)) : Logger :=
  entries.foldl (fun logger entry => logger.info s!"  {entry.1}: {entry.2}") logger

def rendered (entries : List (String × Value)) : List (String × String) :=
  entries.map fun entry => (entry.1, entry.2.render)

def runStart (logger : Logger) (settings : List (String × Value)) : Logger :=
  (((logger.info ruler).info "Starting run with configuration:").listing (rendered settings)).info
    ruler

def count (logger : Logger) (condition : Condition) : Logger :=
  { logger with tally := logger.tally.add condition.name }

def isUnknown : Condition → Bool
  | .unknownInstruction _ => true
  | _ => false

def conditionLevel (tally : Tally) (condition : Condition) : Level :=
  if condition.isFatal then .error
  else if isUnknown condition && tally.count condition.name == 1 then .warning
  else .debug

def conditionMessage (frame pc : Int) (condition : Condition) : String :=
  "frame " ++ Text.padLeft 5 ' ' (Text.decimal frame) ++ " pc=0x" ++ Text.hex 3 pc ++ ": " ++
    condition.message

def condition (logger : Logger) (frame pc : Int) : Option Condition → Logger
  | none => logger
  | some condition =>
    let counted := logger.count condition
    counted.log (conditionLevel counted.tally condition).name (conditionMessage frame pc condition)

def runEnd (logger : Logger) (results : List (String × Value)) : Logger :=
  let (elapsed, logger) := logger.elapsed
  let counts := logger.tally.sorted.map fun entry => (entry.1, Text.decimal entry.2)
  ((((logger.info ruler).info s!"Run completed in {seconds elapsed}s").listing
    (rendered results)).listing counts).info ruler

theorem runEnd_eq (logger : Logger) (results : List (String × Value)) :
    logger.runEnd results =
      ((((logger.elapsed.2.info ruler).info s!"Run completed in {seconds logger.elapsed.1}s").listing
        (rendered results)).listing
        (logger.elapsed.2.tally.sorted.map fun entry => (entry.1, Text.decimal entry.2))).info ruler :=
  rfl

end Chip8.Log.Logger
