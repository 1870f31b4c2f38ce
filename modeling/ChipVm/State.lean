import ChipVm.Display
import ChipVm.Fault
import ChipVm.Memory
import ChipVm.Registers

/-!
# The state of the processor

A state is everything a running program can see or change, held as one value: executing an
instruction takes a state and gives the next one, and nothing is shared between the two.

The stack holds a return address for each call that is still open, innermost first; it has no
bound.  Nothing in the type keeps the program counter or the return addresses inside the address
space or the display cells at 0 and 1: states outside those bounds can be written down, and
`State.Valid` says which ones a program can produce.

* `State`, with `State.read` and `State.wordAt` — bytes and words at an address.
* `State.Valid` — the display is black and white and all addresses lie in the address space.
* `State.defect?` — the first thing that is wrong with a state.
* **`State.defect?_eq_none_iff`** — nothing is reported exactly for valid states.
-/

namespace ChipVm

/-- Everything that a running program can see or change. -/
structure State where
  /-- The bytes of the address space. -/
  memory : Memory
  /-- The registers `V0` to `VF`. -/
  v : Registers
  /-- The address register. -/
  i : UInt16
  /-- The program counter: the address of the next instruction. -/
  pc : UInt16
  /-- The return addresses of the open calls, innermost first. -/
  stack : List UInt16
  /-- The cells of the screen. -/
  display : Display
  /-- The delay timer. -/
  delayTimer : UInt8
  /-- The sound timer. -/
  soundTimer : UInt8
  deriving DecidableEq

namespace State

/-- The byte at an address. -/
def read (s : State) (a : UInt16) : UInt8 := s.memory.read a

/-- The word at an address: the byte there on top of the byte after it. -/
def wordAt (s : State) (a : UInt16) : Word := Word.ofBytes (s.read a) (s.read (a + 1))

/-- The word that the program counter points at. -/
def fetch (s : State) : Word := s.wordAt s.pc

/-! ## Valid states -/

/-- The display is black and white, and the program counter and all return addresses lie in the
address space. -/
structure Valid (s : State) : Prop where
  /-- Every display cell is 0 or 1. -/
  display_le : ∀ k, s.display.pixel k ≤ 1
  /-- The program counter lies in the address space. -/
  pc_le : s.pc ≤ addressMask
  /-- Every return address lies in the address space. -/
  stack_le : ∀ a ∈ s.stack, a ≤ addressMask

/-- The first display cell that is neither 0 nor 1. -/
def pixelDefect? (s : State) : Option Defect :=
  ((List.finRange displaySize).find? fun k => decide (s.display.pixel k > 1)).map fun k =>
    .pixel k.val (s.display.pixel k)

/-- A program counter outside the address space. -/
def counterDefect? (s : State) : Option Defect :=
  if addressMask < s.pc then some (.counter s.pc) else none

/-- The outermost return address outside the address space. -/
def returnDefect? (s : State) : Option Defect :=
  (s.stack.reverse.find? (addressMask < ·)).map .returnAddress

/-- The first thing that is wrong with a state: display cells from the top left on, then the
program counter, then the return addresses from the outermost call on. -/
def defect? (s : State) : Option Defect :=
  s.pixelDefect? <|> s.counterDefect? <|> s.returnDefect?

theorem pixelDefect?_eq_none_iff (s : State) :
    s.pixelDefect? = none ↔ ∀ k, s.display.pixel k ≤ 1 := by
  simp [pixelDefect?, List.find?_eq_none, UInt8.not_lt]

theorem counterDefect?_eq_none_iff (s : State) :
    s.counterDefect? = none ↔ s.pc ≤ addressMask := by
  simp [counterDefect?, UInt16.not_lt]

theorem returnDefect?_eq_none_iff (s : State) :
    s.returnDefect? = none ↔ ∀ a ∈ s.stack, a ≤ addressMask := by
  simp [returnDefect?, List.find?_eq_none, UInt16.not_lt]

/-- **Nothing is reported exactly for valid states.** -/
theorem defect?_eq_none_iff (s : State) : s.defect? = none ↔ s.Valid := by
  have hnone : s.defect? = none ↔
      s.pixelDefect? = none ∧ s.counterDefect? = none ∧ s.returnDefect? = none := by
    unfold defect?
    cases s.pixelDefect? <;> cases s.counterDefect? <;> simp
  rw [hnone, pixelDefect?_eq_none_iff, counterDefect?_eq_none_iff, returnDefect?_eq_none_iff]
  exact ⟨fun ⟨hd, hp, hs⟩ => ⟨hd, hp, hs⟩, fun h => ⟨h.display_le, h.pc_le, h.stack_le⟩⟩

/-- A valid state as it is, any other one refused with what is wrong with it. -/
def validate (s : State) : Except Fault State :=
  match s.defect? with
  | some defect => .error (.invalidState defect)
  | none => .ok s

end State

end ChipVm
