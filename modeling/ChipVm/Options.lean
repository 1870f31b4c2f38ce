import ChipVm.Layout

/-!
# Options

What a user can choose when starting a program: which file holds it, how large the window is, how
fast it runs, where its state is saved, and whether it starts paused.

* `Options` — the choices.
* `Options.standard` — the choices for a program when nothing else is said.
-/

namespace ChipVm

/-- What a user can choose when starting a program. -/
structure Options where
  /-- The file that holds the program. -/
  rom : String
  /-- How many pixels of the window a cell of the screen is wide and high. -/
  scale : Nat
  /-- How many instructions are executed in a second. -/
  clockSpeed : Nat
  /-- The file that the state is saved to and loaded from. -/
  stateFile : String
  /-- Whether the program waits to be stepped through. -/
  paused : Bool
  deriving DecidableEq, Repr

/-- The choices for a program when nothing else is said. -/
def Options.standard (rom : String) : Options where
  rom := rom
  scale := 10
  clockSpeed := 1000000000 / ChipVm.clockSpeed
  stateFile := "emu8-state.json"
  paused := false

end ChipVm
