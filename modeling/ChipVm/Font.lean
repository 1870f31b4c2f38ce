import ChipVm.Layout

/-!
# The built-in font

The machine carries a glyph for each hexadecimal digit: five rows of eight cells, of which the
left four are used.  The glyphs lie one after the other at the bottom of memory, so the glyph of a
digit begins at five times the digit.

* `Font.glyphs` — the sixteen glyphs.
* `Font.sheet` — their bytes in memory order.
* `Font.offset` — where the glyph of a digit begins.
* **`Font.glyph_at_offset`** — the five bytes at a digit's offset are the digit's glyph.
-/

namespace ChipVm

namespace Font

/-- The glyphs of the digits `0` to `F`, each from its top row to its bottom row. -/
def glyphs : List (List UInt8) :=
  [[0xF0, 0x90, 0x90, 0x90, 0xF0],
   [0x20, 0x60, 0x20, 0x20, 0x70],
   [0xF0, 0x10, 0xF0, 0x80, 0xF0],
   [0xF0, 0x10, 0xF0, 0x10, 0xF0],
   [0x90, 0x90, 0xF0, 0x10, 0x10],
   [0xF0, 0x80, 0xF0, 0x10, 0xF0],
   [0xF0, 0x80, 0xF0, 0x90, 0xF0],
   [0xF0, 0x10, 0x20, 0x40, 0x40],
   [0xF0, 0x90, 0xF0, 0x90, 0xF0],
   [0xF0, 0x90, 0xF0, 0x10, 0xF0],
   [0xF0, 0x90, 0xF0, 0x90, 0x90],
   [0xE0, 0x90, 0xE0, 0x90, 0xE0],
   [0xF0, 0x80, 0x80, 0x80, 0xF0],
   [0xE0, 0x90, 0x90, 0x90, 0xE0],
   [0xF0, 0x80, 0xF0, 0x80, 0xF0],
   [0xF0, 0x80, 0xF0, 0x80, 0x80]]

/-- The bytes of all glyphs, in the order they have in memory. -/
def sheet : List UInt8 := glyphs.flatten

/-- Where the glyph of a digit begins. -/
def offset (digit : Fin 16) : UInt16 := UInt16.ofNat (glyphSize * digit.val)

/-- **The glyph of a digit lies at the digit's offset.** -/
theorem glyph_at_offset (digit : Fin 16) :
    (sheet.drop (offset digit).toNat).take glyphSize = glyphs.getD digit.val [] := by
  revert digit
  decide

end Font

end ChipVm
