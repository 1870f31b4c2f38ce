import ChipVm.CommandLine
import ChipVm.Session

/-!
# Playing in a terminal

Where there is no window, a session can be played line by line.  Each line that is typed is one
pass; its words are the events.  A word is a key's label after a plus sign for a key that goes down
and after a minus sign for one that comes up, or `quit`.  A screen is shown as lines of text.

* `Event.ofWord`, `Pass.ofLine` — what was typed.
* `Display.text` — a screen.
* `Rejection.message`, `CommandLine.usage` — what is said instead of running a command line.
-/

namespace ChipVm

/-- The event that a word stands for. -/
def Event.ofWord (word : String) : Event :=
  match word.toList with
  | '+' :: label => .keyDown (some (HostKey.ofLabel (String.ofList label)))
  | '-' :: label => .keyUp (some (HostKey.ofLabel (String.ofList label)))
  | _ => if word = "quit" then .quit else .other

/-- The pass that a line stands for. -/
def Pass.ofLine (line : String) (random : UInt8) : Pass where
  events := ((line.trimAscii.toString.splitOn " ").filter (· ≠ "")).map Event.ofWord
  random := random

/-- A row of a screen as text. -/
def Display.rowText (display : Display) (row : Nat) : String :=
  String.ofList ((List.range displayWidth).map fun column =>
    if display.pixel (Screen.cellAt column row) = 0 then '.' else '#')

/-- A screen as lines of text. -/
def Display.text (display : Display) : String :=
  "\n".intercalate ((List.range displayHeight).map display.rowText)

/-- What is said about a command line that is not run. -/
def Rejection.message : Rejection → String
  | .missingRom => "the program to run is missing"
  | .unknownArgument => "there is an argument that means nothing here"
  | .noValue => "a value is missing"
  | .badNumber => "a value is not a number in range"
  | .repeated => "an option is given twice"
  | .unexpectedValue => "an option has a value but takes none"
  | .help => "runs a CHIP-8 program"
  | .version => "0.1.0"

/-- How a command line is written. -/
def CommandLine.usage : String :=
  "usage: <ROM> [-s|--scale N] [-c|--clock-speed N] [--state-file PATH] [--paused]"

end ChipVm
