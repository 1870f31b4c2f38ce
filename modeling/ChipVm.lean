import ChipVm.Text.Hex
import ChipVm.Text.CharClass
import ChipVm.Text.Unprintable
import ChipVm.Text.Extending
import ChipVm.Text.Quoted
import ChipVm.Layout
import ChipVm.Word
import ChipVm.Font
import ChipVm.Keypad
import ChipVm.Fault
import ChipVm.Memory
import ChipVm.Registers
import ChipVm.Display
import ChipVm.State
import ChipVm.State.Boot
import ChipVm.Instruction
import ChipVm.Sprite
import ChipVm.Execution
import ChipVm.Log
import ChipVm.Tracer
import ChipVm.Cycle
import ChipVm.Run
import ChipVm.Listing
import ChipVm.Json.Lexeme
import ChipVm.Json.Skip
import ChipVm.SaveFile.Field
import ChipVm.SaveFile.Writer
import ChipVm.SaveFile.Reader
import ChipVm.Machine
import ChipVm.Machine.Operation
import ChipVm.Texture
import ChipVm.WindowSystem
import ChipVm.HostKey
import ChipVm.Options
import ChipVm.CommandLine
import ChipVm.Disk
import ChipVm.Session
import ChipVm.Terminal
import ChipVm.Main
import ChipVm.Proofs.Json.Grammar
import ChipVm.Proofs.Json.Reading
import ChipVm.Proofs.Json.Skipping
import ChipVm.Proofs.SaveFile.Document
import ChipVm.Proofs.SaveFile.Fields
import ChipVm.Proofs.State.Defects
import ChipVm.Proofs.SaveFile.Acceptance
import ChipVm.Proofs.SaveFile.RoundTrip
import ChipVm.Proofs.Execution.Validity
import ChipVm.Proofs.Execution.AddressSpace
import ChipVm.Proofs.Instruction.Table
import ChipVm.Proofs.Machine.Invariant
import ChipVm.Proofs.Execution.ControlFlow
import ChipVm.Proofs.Execution.Footprint
import ChipVm.Proofs.Execution.Trail
import ChipVm.Proofs.Execution.CallStack
import ChipVm.Proofs.Machine.Failures
import ChipVm.Proofs.Machine.Resumption
import ChipVm.Proofs.Latest
import ChipVm.Proofs.Machine.Restart
import ChipVm.Proofs.Texture.Upload
import ChipVm.Proofs.Machine.Frames
import ChipVm.Proofs.Session.Agenda
import ChipVm.Proofs.Session.Conduct
import ChipVm.Proofs.Session.Loading
import ChipVm.Proofs.Session.Screen
import ChipVm.Proofs.Session.Pausing
import ChipVm.Proofs.Text.Hexadecimal
import ChipVm.Proofs.Execution.Tracing
import ChipVm.Proofs.Machine.Driving
import ChipVm.Proofs.Memory.Block
import ChipVm.Proofs.Listing.Disassembly
import ChipVm.Proofs.Bounds.Lookup
import ChipVm.Proofs.Bounds.Execution
import ChipVm.Proofs.Bounds.Showing
import ChipVm.Proofs.Sprite.Stamp
import ChipVm.Proofs.Sprite.Superposition
import ChipVm.Proofs.Instruction.Operands
import ChipVm.Proofs.Listing.Window
import ChipVm.Proofs.Session.Inspection
import ChipVm.Proofs.Execution.Arithmetic
import ChipVm.Proofs.Execution.Transfer
import ChipVm.Proofs.Machine.Timers
import ChipVm.Proofs.Execution.Waiting
import ChipVm.Proofs.Texture.Recovery
import ChipVm.Proofs.Session.Keys
import ChipVm.Proofs.CommandLine.Spelling
import ChipVm.Proofs.CommandLine.Reading
import ChipVm.Proofs.CommandLine.RoundTrip
