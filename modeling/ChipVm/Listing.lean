import ChipVm.Cycle

/-!
# Listings

A listing shows memory as instructions, one line a word.  While a program is followed step by step,
the listing shows a window of words around the program counter.  The window stays where it is for
as long as the program counter walks through it and moves only when the program counter leaves it,
so that the lines do not jump about.

* `Line` — one word of a listing, and `Line.text` — how it is shown.
* `State.disassemble` — the words from an address on.
* `listingStart` — where the window begins, given where it began before.
* `State.listing` — the words around the window.
* **`listingStart_le`** — the window never begins after the program counter.
* **`length_disassemble`** — a listing has as many lines as asked for.
-/

namespace ChipVm

/-- Number of words that the listing of a window shows. -/
def listingLength : Nat := 20

/-- One word of a listing. -/
structure Line where
  /-- The address of the word, not cut down to the address space. -/
  address : UInt16
  /-- The word. -/
  word : Word
  /-- The mnemonic of the word, or why it has none. -/
  description : String
  deriving DecidableEq, Repr

/-- How a line is shown, such as `0200| CLS`. -/
def Line.text (line : Line) : String :=
  s!"{Hex.text 4 line.address.toNat}| {line.description}"

/-- The line for the word at an address. -/
def State.lineAt (s : State) (a : UInt16) : Line where
  address := a
  word := s.wordAt a
  description := (s.wordAt a).describe

/-- The lines for `count` words, the first one at `start`. -/
def State.disassemble (s : State) (start : UInt16) (count : Nat) : List Line :=
  (List.range count).map fun k => s.lineAt (start + UInt16.ofNat (2 * k))

/-- How far the program counter may be from the start of the window. -/
def listingReach : UInt16 := UInt16.ofNat (2 * (listingLength - 2))

/-- Where the window begins: where it began before, if the program counter is still in it, and
otherwise at the program counter. -/
def listingStart (last pc : UInt16) : UInt16 :=
  if pc < last ∨ listingReach < pc - last then pc else last

/-- The address one word before another, or zero if there is no such address. -/
def wordBefore (a : UInt16) : UInt16 := if a < 2 then 0 else a - 2

/-- The lines around a window, from the word before it on. -/
def State.listing (s : State) (window : UInt16) : List Line :=
  s.disassemble (wordBefore window) listingLength

/-- **A listing has as many lines as asked for.** -/
@[simp] theorem length_disassemble (s : State) (start : UInt16) (count : Nat) :
    (s.disassemble start count).length = count := by
  simp [State.disassemble]

/-- **The window never begins after the program counter.** -/
theorem listingStart_le (last pc : UInt16) : listingStart last pc ≤ pc := by
  unfold listingStart
  split
  · exact UInt16.le_refl pc
  · rename_i h
    exact UInt16.not_lt.mp fun hlt => h (.inl hlt)

end ChipVm
