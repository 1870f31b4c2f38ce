import ChipVm.SaveFile.Field

/-!
# Writing a saved state

A state is saved as one JSON object without blanks: the eight fields in their usual order, numbers
in decimal, and the stack from the outermost call inwards.

* `SaveFile.writeNats` — an array of numbers.
* `SaveFile.writeField`, `SaveFile.writeMember` — what a field holds, without and with its name.
* `SaveFile.write` — a whole state; `State.save` — the same as a string.
-/

namespace ChipVm

namespace SaveFile

/-- A number in decimal. -/
def writeNat (n : Nat) : List Char := Nat.toDigits 10 n

/-- An array of numbers. -/
def writeNats (ns : List Nat) : List Char :=
  '[' :: List.intercalate [','] (ns.map writeNat) ++ [']']

/-- What a field holds. -/
def writeField : (f : Field) → f.Value → List Char
  | .memory, memory => writeNats (memory.toList.map UInt8.toNat)
  | .v, v => writeNats (v.toList.map UInt8.toNat)
  | .i, i => writeNat i.toNat
  | .pc, pc => writeNat pc.toNat
  | .stack, stack => writeNats (stack.reverse.map UInt16.toNat)
  | .display, display => writeNats (display.toList.map UInt8.toNat)
  | .delayTimer, timer => writeNat timer.toNat
  | .soundTimer, timer => writeNat timer.toNat

/-- The name of a field, a colon, and what the field holds. -/
def writeMember (s : State) (f : Field) : List Char :=
  '"' :: f.name.toList ++ '"' :: ':' :: writeField f (s.field f)

/-- A whole state. -/
def write (s : State) : List Char :=
  '{' :: List.intercalate [','] (Field.all.map (writeMember s)) ++ ['}']

end SaveFile

/-- The text of a saved state. -/
def State.save (s : State) : String := String.ofList (SaveFile.write s)

end ChipVm
