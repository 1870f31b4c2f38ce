import ChipVm.Text.Hex
import ChipVm.Word

/-!
# What can go wrong

A fault says why the machine could not do what it was asked to: run a word, take in a program, or
take in a saved state.  Faults are causes; the sentence shown to a person is made from the cause in
one place.

* `Defect` — why a state that can be written down is not one a program could have produced.
* `Fault` — every reason for refusing.
* `Defect.message`, `Fault.message` — the sentences.
-/

namespace ChipVm

/-- Why a state is not one that a program could have produced. -/
inductive Defect where
  /-- The display cell at `index` holds something other than 0 or 1. -/
  | pixel (index : Nat) (value : UInt8)
  /-- The program counter lies outside the address space. -/
  | counter (pc : UInt16)
  /-- A return address on the stack lies outside the address space. -/
  | returnAddress (address : UInt16)
  deriving DecidableEq, Repr

/-- Why the machine refused. -/
inductive Fault where
  /-- The word is not an instruction. -/
  | illegalWord (word : Word)
  /-- The return at `pc` has no call to go back to. -/
  | emptyStack (pc : UInt16)
  /-- The program has `size` bytes, more than fit into memory. -/
  | romTooLarge (size : Nat)
  /-- The saved state is well written, but no program could have produced it. -/
  | invalidState (defect : Defect)
  /-- The value has no three-digit decimal form of a byte. -/
  | decimalOutOfRange (value : Int)
  /-- The text is not a saved state. -/
  | malformedSave
  deriving DecidableEq, Repr

/-- An address as it is shown in messages. -/
def addressText (a : UInt16) : String := s!"0x{Hex.text 4 a.toNat}"

/-- The sentence for a defect. -/
def Defect.message : Defect → String
  | .pixel index value => s!"display cell {index} is {value.toNat}, expected 0 or 1"
  | .counter pc => s!"pc {addressText pc} is outside the address space"
  | .returnAddress address =>
      s!"return address {addressText address} is outside the address space"

/-- The sentence for a fault. -/
def Fault.message : Fault → String
  | .illegalWord word => s!"Illegal opcode: {Hex.text 4 word.toNat}"
  | .emptyStack pc => s!"Stack underflow: RET at {addressText pc} with no pending CALL"
  | .romTooLarge size =>
      s!"ROM is too large ({size} bytes), max size is {maxRomSize} bytes"
  | .invalidState defect => s!"Invalid state: {defect.message}"
  | .decimalOutOfRange value =>
      s!"Can't convert {value} to BCD, expected a value in 0..=255"
  | .malformedSave => "Unable to (de)serialize state:"

end ChipVm
