import ChipVm.State

/-!
# Drawing sprites

A sprite is up to fifteen rows of eight cells, one byte a row with the leftmost cell in the highest
bit.  Drawing flips the cells of the screen under the sprite's lit cells.  What sticks out on one
side of the screen comes in on the opposite one.  If a lit cell of the screen is flipped, the
drawing collides.

* `Sprite.pixel` — the cell of a sprite row at a column.
* `Drawing` — a screen being drawn on, together with the collision so far.
* `Sprite.draw` — a whole sprite, row by row.
* **`Drawing.pixel_flip`** — one step changes one cell, by exclusive or.
-/

namespace ChipVm

/-- A screen being drawn on. -/
structure Drawing where
  /-- The cells so far. -/
  display : Display
  /-- 1 once a lit cell was flipped, 0 before. -/
  collision : UInt8

namespace Drawing

/-- The drawing before its first step. -/
def start (display : Display) : Drawing := ⟨display, 0⟩

/-- Lays one cell of a sprite, 0 or 1, on a cell of the screen. -/
def flip (d : Drawing) (k : Fin displaySize) (bit : UInt8) : Drawing where
  collision := d.collision ||| (bit &&& d.display.pixel k)
  display := d.display.paint k (d.display.pixel k ^^^ bit)

/-- **One step changes one cell, by exclusive or.** -/
theorem pixel_flip (d : Drawing) (k j : Fin displaySize) (bit : UInt8) :
    (d.flip k bit).display.pixel j =
      if k = j then d.display.pixel j ^^^ bit else d.display.pixel j := by
  rw [flip, Display.pixel_paint]
  split
  · rename_i h
    rw [h]
  · rfl

end Drawing

namespace Sprite

/-- The cell at `column` of a sprite row, where column 0 is the highest bit. -/
def pixel (row : UInt8) (column : Nat) : UInt8 := row >>> UInt8.ofNat (7 - column) &&& 1

/-- Lays the eight cells of a row on the screen, from column `x` of row `y` to the right. -/
def drawRow (x y : Nat) (row : UInt8) (d : Drawing) : Drawing :=
  (List.range 8).foldl
    (fun d column => d.flip (Screen.cellAt (x + column) y) (pixel row column)) d

/-- Lays a sprite of `height` rows, which begins in memory at `i`, on the screen. -/
def draw (memory : Memory) (i : UInt16) (x y : UInt8) (height : Nat) (display : Display) :
    Drawing :=
  (List.range height).foldl
    (fun d k => drawRow x.toNat (y.toNat + k) (memory.read (i + UInt16.ofNat k)) d)
    (Drawing.start display)

/-- A cell of a sprite is 0 or 1. -/
theorem pixel_le (row : UInt8) (column : Nat) : pixel row column ≤ 1 := by
  rw [UInt8.le_iff_toNat_le, pixel, UInt8.toNat_and]
  exact Nat.and_le_right

end Sprite

end ChipVm
