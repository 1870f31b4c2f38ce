import ChipVm.Terminal

/-!
# The command line program

Reads the command line and the files, plays a session line by line from the standard input, and
writes the log to the standard error, the screen to the standard output and the saved state to its
file.  What any of it means is decided elsewhere.
-/

namespace ChipVm

namespace Main

/-- The disk with the file that a path leads to, if there is one. -/
def mount (disk : Disk) (path : String) : IO Disk := do
  let disk := disk.furnish (disk.start path) ((pathNames path.toList).map String.ofList)
  try
    let bytes ← IO.FS.readBinFile path
    match disk.writeBytes path bytes with
    | .ok disk => return disk
    | .error _ => return disk
  catch _ => return disk

/-- Writes down what a session has said since the last time. -/
def report (s : Session) : IO Session := do
  for entry in s.log.entries do
    IO.eprintln s!"{entry.level.name} {entry.text}"
  return { s with log := s.log.cleared }

/-- Writes the saved state to its file, if it has changed. -/
def store (before after : Session) : IO Unit := do
  if let .ok bytes := after.disk.readBytes after.stateFile then
    let known := (before.disk.readBytes after.stateFile).toOption.map ByteArray.data
    if known ≠ some bytes.data then
      IO.FS.writeBinFile after.stateFile bytes

/-- Plays passes until the session ends. -/
partial def play (s : Session) (shown : Nat) : IO UInt32 := do
  let line ← (← IO.getStdin).getLine
  let random ← IO.rand 0 255
  let next :=
    if line.isEmpty then Session.lastPass else Pass.ofLine line (UInt8.ofNat random)
  let (verdict, after) := Session.pass next s
  store s after
  let s ← report after
  if s.windowSystem.presented.size ≠ shown then
    IO.println s.machine.state.display.text
  match verdict with
  | .goesOn => play s s.windowSystem.presented.size
  | .ended => return 0
  | .failed failure =>
      IO.eprintln failure.message
      return 1

/-- Runs a program with the given choices. -/
def run (options : Options) : IO UInt32 := do
  let disk ← mount (Disk.bare ["home"]) options.rom
  let disk ← mount disk options.stateFile
  let s := Session.idle options disk (WindowSystem.idle 0 none) (Log.atLevel (some .info))
  let (verdict, s) := Session.start options s
  let s ← report s
  match verdict with
  | .failed failure =>
      IO.eprintln failure.message
      return 1
  | _ => play s 0

end Main

end ChipVm

/-- Runs the command line. -/
def main (arguments : List String) : IO UInt32 := do
  match ChipVm.CommandLine.parse arguments with
  | .ok options => ChipVm.Main.run options
  | .error .help =>
      IO.println ChipVm.CommandLine.usage
      return 0
  | .error .version =>
      IO.println ChipVm.Rejection.version.message
      return 0
  | .error rejection =>
      IO.eprintln rejection.message
      IO.eprintln ChipVm.CommandLine.usage
      return 2
