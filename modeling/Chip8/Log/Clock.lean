/-!
The clock of a log: readings in seconds that are still to come. Each reading takes the next one, and
the last one repeats. A clock without readings stands at zero.
-/

namespace Chip8.Log

structure Clock where
  readings : List Float

namespace Clock

def read (clock : Clock) : Float × Clock :=
  match clock.readings with
  | [] => (0, clock)
  | [last] => (last, clock)
  | next :: rest => (next, ⟨rest⟩)

end Clock

end Chip8.Log
