import Chip8.Main
import Chip8.Machine.Host
import Chip8.Proofs.Headless.HeldKey
import Chip8.Proofs.Headless.UnknownStop
import Chip8.Proofs.Instruction
import Chip8.Proofs.Machine.Outcome
import Chip8.Proofs.Machine.Report
import Chip8.Proofs.Machine.Run
import Chip8.Proofs.Machine.Step
import Chip8.Proofs.InstructionSet
import Chip8.Proofs.Machine.Raises
import Chip8.Proofs.Machine.Calls
import Chip8.Proofs.Machine.Draw
import Chip8.Proofs.Machine.Gate
import Chip8.Proofs.Machine.History
import Chip8.Proofs.Machine.ProgramCounter
import Chip8.Proofs.Checked.Sprite
import Chip8.Proofs.Machine.WellFormed
import Chip8.Proofs.Checked.Execute
import Chip8.Proofs.Checked.Serve
import Chip8.Proofs.Machine.Reserved
import Chip8.Proofs.Machine.Journal
import Chip8.Proofs.Machine.Outputs
import Chip8.Proofs.Machine.RandomStream
import Chip8.Proofs.Machine.Timers
import Chip8.Proofs.Machine.HostEvents
import Chip8.Proofs.Machine.Variants
import Chip8.Proofs.Machine.Drawings
import Chip8.Proofs.Cli.ExitCode
import Chip8.Proofs.Machine.BulkTransfer
import Chip8.Proofs.Machine.Arithmetic
import Chip8.Proofs.Machine.Loading
import Chip8.Proofs.Rendering
import Chip8.Proofs.Memory
import Chip8.Proofs.Log.Threshold
import Chip8.Proofs.Log.Calls
