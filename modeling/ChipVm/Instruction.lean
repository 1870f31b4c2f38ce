import ChipVm.Text.Hex
import ChipVm.Word

/-!
# Instructions

There are 34 instructions.  An instruction is what a word says to do; the operands stay in the word
and are read from it when the instruction is shown or executed.  So an `Instruction` is only the
kind, and which operands it has is fixed by its `Operands`.

* `Instruction` — the kinds.
* `Instruction.ofWord?` — the instruction a word stands for, if it stands for one.
* `Instruction.mnemonic` — its assembly name, with the operands named rather than filled in.
* `Instruction.operands` — the operands of a word as the instruction reads them.
-/

namespace ChipVm

/-- What a word says to do. -/
inductive Instruction where
  /-- Turn every cell of the screen off. -/
  | clear
  /-- Go back to the innermost open call. -/
  | ret
  /-- Go on at an address. -/
  | jump
  /-- Go on at an address, to come back later. -/
  | call
  /-- Skip the next instruction if `Vx` is a given byte. -/
  | skipIfByte
  /-- Skip the next instruction unless `Vx` is a given byte. -/
  | skipUnlessByte
  /-- Skip the next instruction if `Vx` and `Vy` agree. -/
  | skipIfEqual
  /-- Set `Vx` to a given byte. -/
  | setByte
  /-- Add a given byte to `Vx`. -/
  | addByte
  /-- Copy `Vy` to `Vx`. -/
  | copy
  /-- Join the bits of `Vy` to those of `Vx`. -/
  | or
  /-- Keep the bits of `Vx` that `Vy` has too. -/
  | and
  /-- Flip the bits of `Vx` that `Vy` has. -/
  | xor
  /-- Add `Vy` to `Vx`; the flag is the carry. -/
  | add
  /-- Take `Vy` from `Vx`; the flag says that `Vx` was larger. -/
  | subtract
  /-- Halve `Vx`; the flag is the bit that is lost. -/
  | shiftRight
  /-- Set `Vx` to `Vy` less `Vx`; the flag says that `Vy` was larger. -/
  | subtractFrom
  /-- Double `Vx`; the flag is the bit that is lost. -/
  | shiftLeft
  /-- Skip the next instruction unless `Vx` and `Vy` agree. -/
  | skipUnlessEqual
  /-- Set the address register. -/
  | setIndex
  /-- Go on at an address plus `V0`. -/
  | jumpOffset
  /-- Set `Vx` to a random byte cut down by a given one. -/
  | random
  /-- Draw a sprite at `Vx`, `Vy`; the flag is the collision. -/
  | draw
  /-- Skip the next instruction if the key in `Vx` is held. -/
  | skipIfHeld
  /-- Skip the next instruction unless the key in `Vx` is held. -/
  | skipUnlessHeld
  /-- Read the delay timer into `Vx`. -/
  | readDelay
  /-- Wait for a key and put it into `Vx`. -/
  | awaitKey
  /-- Set the delay timer. -/
  | setDelay
  /-- Set the sound timer. -/
  | setSound
  /-- Add `Vx` to the address register. -/
  | addIndex
  /-- Point the address register at the glyph of the digit in `Vx`. -/
  | pointGlyph
  /-- Store the three decimal digits of `Vx`. -/
  | storeDecimal
  /-- Store `V0` to `Vx`. -/
  | storeRegisters
  /-- Load `V0` to `Vx`. -/
  | loadRegisters
  deriving DecidableEq, Repr

/-- Which fields of its word an instruction reads. -/
inductive Operands where
  /-- None. -/
  | nothing
  /-- The address `nnn`. -/
  | address
  /-- The register `x` and the byte `kk`. -/
  | registerByte
  /-- The registers `x` and `y`. -/
  | registers
  /-- The registers `x` and `y` and the nibble `n`. -/
  | sprite
  /-- The register `x`. -/
  | register
  deriving DecidableEq, Repr

/-- The fields of the word as text. -/
def Operands.text (o : Operands) (w : Word) : String :=
  match o with
  | .nothing => ""
  | .address => s!"nnn={Hex.text 3 w.nnn.toNat}"
  | .registerByte => s!"x={Hex.text 1 w.x.val}, kk={Hex.text 2 w.kk.toNat}"
  | .registers => s!"x={Hex.text 1 w.x.val}, y={Hex.text 1 w.y.val}"
  | .sprite => s!"x={Hex.text 1 w.x.val}, y={Hex.text 1 w.y.val}, n={Hex.text 1 w.n}"
  | .register => s!"x={Hex.text 1 w.x.val}"

namespace Instruction

/-! ## From words to instructions -/

/-- The instruction of the arithmetic family, which the last digit selects. -/
def arithmetic? : Nat → Option Instruction
  | 0x0 => some .copy
  | 0x1 => some .or
  | 0x2 => some .and
  | 0x3 => some .xor
  | 0x4 => some .add
  | 0x5 => some .subtract
  | 0x6 => some .shiftRight
  | 0x7 => some .subtractFrom
  | 0xE => some .shiftLeft
  | _ => none

/-- The instruction of the family of keys, which the lower byte selects. -/
def keys? : UInt8 → Option Instruction
  | 0x9E => some .skipIfHeld
  | 0xA1 => some .skipUnlessHeld
  | _ => none

/-- The instruction of the family of timers and memory, which the lower byte selects. -/
def transfer? : UInt8 → Option Instruction
  | 0x07 => some .readDelay
  | 0x0A => some .awaitKey
  | 0x15 => some .setDelay
  | 0x18 => some .setSound
  | 0x1E => some .addIndex
  | 0x29 => some .pointGlyph
  | 0x33 => some .storeDecimal
  | 0x55 => some .storeRegisters
  | 0x65 => some .loadRegisters
  | _ => none

/-- The instruction that a word stands for, if it stands for one. -/
def ofWord? (w : Word) : Option Instruction :=
  match w.lead with
  | 0x0 => if w = 0x00E0 then some .clear else if w = 0x00EE then some .ret else none
  | 0x1 => some .jump
  | 0x2 => some .call
  | 0x3 => some .skipIfByte
  | 0x4 => some .skipUnlessByte
  | 0x5 => if w.n = 0 then some .skipIfEqual else none
  | 0x6 => some .setByte
  | 0x7 => some .addByte
  | 0x8 => arithmetic? w.n
  | 0x9 => if w.n = 0 then some .skipUnlessEqual else none
  | 0xA => some .setIndex
  | 0xB => some .jumpOffset
  | 0xC => some .random
  | 0xD => some .draw
  | 0xE => keys? w.kk
  | 0xF => transfer? w.kk
  | _ => none

/-! ## From instructions to text -/

/-- The assembly name of an instruction, with the operands named rather than filled in. -/
def mnemonic : Instruction → String
  | clear => "CLS"
  | ret => "RET"
  | jump => "JP addr"
  | call => "CALL addr"
  | skipIfByte => "SE Vx, byte"
  | skipUnlessByte => "SNE Vx, byte"
  | skipIfEqual => "SE Vx, Vy"
  | setByte => "LD Vx, byte"
  | addByte => "ADD Vx, byte"
  | copy => "LD Vx, Vy"
  | or => "OR Vx, Vy"
  | and => "AND Vx, Vy"
  | xor => "XOR Vx, Vy"
  | add => "ADD Vx, Vy"
  | subtract => "SUB Vx, Vy"
  | shiftRight => "SHR Vx"
  | subtractFrom => "SUBN Vx, Vy"
  | shiftLeft => "SHL Vx"
  | skipUnlessEqual => "SNE Vx, Vy"
  | setIndex => "LD I, addr"
  | jumpOffset => "JP V0, addr"
  | random => "RND Vx, byte"
  | draw => "DRW Vx, Vy, nibble"
  | skipIfHeld => "SKP Vx"
  | skipUnlessHeld => "SKNP Vx"
  | readDelay => "LD Vx, DT"
  | awaitKey => "LD Vx, K"
  | setDelay => "LD DT, Vx"
  | setSound => "LD ST, Vx"
  | addIndex => "ADD I, Vx"
  | pointGlyph => "LD F, Vx"
  | storeDecimal => "LD B, Vx"
  | storeRegisters => "LD [I], Vx"
  | loadRegisters => "LD Vx, [I]"

/-- Which fields of its word an instruction reads.  The shifts read one register only. -/
def shape : Instruction → Operands
  | clear | ret => .nothing
  | jump | call | setIndex | jumpOffset => .address
  | skipIfByte | skipUnlessByte | setByte | addByte | random => .registerByte
  | skipIfEqual | skipUnlessEqual | copy | or | and | xor | add | subtract | subtractFrom =>
      .registers
  | draw => .sprite
  | shiftRight | shiftLeft | skipIfHeld | skipUnlessHeld | readDelay | awaitKey | setDelay
  | setSound | addIndex | pointGlyph | storeDecimal | storeRegisters | loadRegisters => .register

/-- The operands of a word as the instruction reads them, such as `x=1, kk=2A`. -/
def operands (ins : Instruction) (w : Word) : String := ins.shape.text w

end Instruction

end ChipVm
