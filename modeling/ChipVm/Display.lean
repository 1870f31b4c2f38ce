import ChipVm.Layout

/-!
# The screen

The screen has 64 by 32 cells, stored row by row.  A lit cell is 1 and a dark one 0, but a cell is a
byte and nothing in the type keeps other values out.  The screen has no edges: a column or a row
that is too large comes in on the opposite side.

* `Display`, `Display.dark` — the cells, and none of them lit.
* `Display.pixel`, `Display.paint` — one cell.
* `Screen.cellAt` — the cell at a column and a row, both wrapped around the edges.
* **`Display.pixel_paint`** — painting a cell is seen there and nowhere else.
* **`Screen.cellAt_add_width`, `Screen.cellAt_add_height`** — a full turn around the screen leads
  back to the same cell.
-/

namespace ChipVm

/-- The cells of the screen, row by row; a lit cell is 1 and a dark one 0. -/
abbrev Display := Vector UInt8 displaySize

namespace Display

/-- No cell is lit. -/
def dark : Display := Vector.replicate displaySize 0

/-- The cell with number `k`. -/
def pixel (d : Display) (k : Fin displaySize) : UInt8 := d[k]

/-- The screen with the cell with number `k` replaced. -/
def paint (d : Display) (k : Fin displaySize) (b : UInt8) : Display := d.set k b k.isLt

@[simp] theorem pixel_dark (k : Fin displaySize) : pixel dark k = 0 := by
  simp [pixel, dark]

/-- **Painting a cell is seen there and nowhere else.** -/
theorem pixel_paint (d : Display) (k j : Fin displaySize) (b : UInt8) :
    pixel (paint d k b) j = if k = j then b else pixel d j := by
  by_cases h : k = j
  · simp [pixel, paint, h]
  · have hval : k.val ≠ j.val := fun e => h (Fin.ext e)
    simpa [pixel, paint, h] using Vector.getElem_set_ne k.isLt j.isLt hval

/-- Screens with the same cells are the same. -/
theorem ext_pixel {a b : Display} (h : ∀ k, pixel a k = pixel b k) : a = b :=
  Vector.ext fun k hk => h ⟨k, hk⟩

end Display

namespace Screen

/-- The cell at column `x` and row `y`, both wrapped around the edges of the screen. -/
def cellAt (x y : Nat) : Fin displaySize :=
  ⟨x % displayWidth + y % displayHeight * displayWidth, by
    have hx : x % displayWidth < 64 := Nat.mod_lt _ (by decide)
    have hy : y % displayHeight < 32 := Nat.mod_lt _ (by decide)
    simp only [displaySize, displayWidth] at *
    omega⟩

/-- **Going once around sideways** leads back to the same cell. -/
@[simp] theorem cellAt_add_width (x y : Nat) : cellAt (x + displayWidth) y = cellAt x y := by
  simp [cellAt]

/-- **Going once around from top to bottom** leads back to the same cell. -/
@[simp] theorem cellAt_add_height (x y : Nat) : cellAt x (y + displayHeight) = cellAt x y := by
  simp [cellAt]

end Screen

end ChipVm
