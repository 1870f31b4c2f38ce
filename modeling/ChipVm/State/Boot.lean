import ChipVm.Font
import ChipVm.Log
import ChipVm.State

/-!
# Starting a program

Before its first instruction a program finds every byte, register, cell and timer at zero, except
for the font at the bottom of memory and its own bytes from `programStart` on.

* `State.blank` — everything zero, the program counter at the start of the program.
* `State.withFont` — the font copied in; `State.fresh` — a blank state with it.
* `State.loadRom` — a program copied in, unless it is too large; `State.loadRomLogged` — the same,
  with success written to a log.
* **`State.loadRom_isOk_iff`** — the size is the only reason for refusing a program.
-/

namespace ChipVm

namespace State

/-- Every byte, register, cell and timer at zero, and no open call. -/
def blank : State where
  memory := Memory.zero
  v := Registers.zero
  i := 0
  pc := programStart
  stack := []
  display := Display.dark
  delayTimer := 0
  soundTimer := 0

/-- The state with the font at the bottom of memory. -/
def withFont (s : State) : State := { s with memory := s.memory.store 0 Font.sheet }

/-- A blank state with the font, ready for a program. -/
def fresh : State := blank.withFont

/-- The state with the bytes of a program from `programStart` on.  A program that does not fit is
refused. -/
def loadRom (s : State) (rom : List UInt8) : Except Fault State :=
  if maxRomSize < rom.length then .error (.romTooLarge rom.length)
  else .ok { s with memory := s.memory.store programStart rom }

/-- `loadRom`, with a program that was taken in written to the log. -/
def loadRomLogged (s : State) (rom : List UInt8) (log : Log) : Except Fault State × Log :=
  match s.loadRom rom with
  | .ok t =>
      (.ok t, log.write .debug s!"loaded {rom.length} byte ROM at {addressText programStart}")
  | .error fault => (.error fault, log)

/-- The log does not change what happens. -/
@[simp] theorem loadRomLogged_fst (s : State) (rom : List UInt8) (log : Log) :
    (s.loadRomLogged rom log).1 = s.loadRom rom := by
  unfold loadRomLogged
  cases s.loadRom rom <;> rfl

/-- **Only the size counts.** -/
theorem loadRom_isOk_iff (s : State) (rom : List UInt8) :
    (∃ t, s.loadRom rom = .ok t) ↔ rom.length ≤ maxRomSize := by
  unfold loadRom
  split <;> simp <;> omega

theorem blank_valid : blank.Valid where
  display_le k := by simp [blank]
  pc_le := by decide
  stack_le a h := by simp [blank] at h

theorem fresh_valid : fresh.Valid :=
  ⟨blank_valid.display_le, blank_valid.pc_le, blank_valid.stack_le⟩

end State

end ChipVm
