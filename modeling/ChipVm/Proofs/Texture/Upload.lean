import ChipVm.Texture
import Mathlib.Tactic.Common

/-!
# What is in a texture

The rows of a screen are laid into a buffer one after the other, a pitch apart.  As long as the
pitch is no shorter than a row, no row reaches into the next one, so that each byte is written once
at most: a byte within a row belongs to one cell and one colour, and a byte between two rows stays
what it was.

* `Texture.getElem?_writeAt_of_lt`, `Texture.getElem?_writeAt_of_outside` — bytes laid into a
  buffer.
* `Display.getElem?_cell`, `Texture.getElem?_rowBytes` — the cells and the bytes of a row.
* **`Texture.getElem?_upload`** — the bytes of a screen that was uploaded.
* `Texture.Depicts` — a buffer that shows a screen in black and white.
* **`Texture.depicts_upload`** — a screen that was uploaded is shown.
-/

namespace ChipVm

/-- A cell within the edges is the one with this number in the list of all cells. -/
lemma Display.getElem?_cell (frame : Display) {row column : Nat} (hrow : row < displayHeight)
    (hcolumn : column < displayWidth) :
    frame[row * displayWidth + column]? = some (frame.pixel (Screen.cellAt column row)) := by
  have hcell : row * displayWidth + column = (Screen.cellAt column row).val := by
    simp only [Screen.cellAt, Nat.mod_eq_of_lt hrow, Nat.mod_eq_of_lt hcolumn]
    exact Nat.add_comm _ _
  rw [hcell]
  exact Vector.getElem?_eq_getElem (Screen.cellAt column row).isLt

namespace Texture

/-! ## Bytes laid into a buffer -/

/-- What is before the bytes or behind them stays. -/
lemma getElem?_writeAt_of_outside {buffer : Array UInt8} {k j : Nat} {bytes : List UInt8}
    (h : j < k ∨ k + bytes.length ≤ j) : (writeAt buffer k bytes)[j]? = buffer[j]? := by
  induction bytes generalizing buffer k with
  | nil => rfl
  | cons b bytes ih =>
      rw [List.length_cons] at h
      rw [writeAt, ih (by omega), Array.getElem?_setIfInBounds_ne (by omega)]

/-- The bytes are where they were laid. -/
lemma getElem?_writeAt_of_lt {buffer : Array UInt8} {k j : Nat} {bytes : List UInt8}
    (hj : j < bytes.length) (hsize : k + j < buffer.size) :
    (writeAt buffer k bytes)[k + j]? = bytes[j]? := by
  induction bytes generalizing buffer k j with
  | nil => exact absurd hj (Nat.not_lt_zero j)
  | cons b bytes ih =>
      rw [writeAt]
      cases j with
      | zero =>
          rw [getElem?_writeAt_of_outside (by omega), Nat.add_zero,
            Array.getElem?_setIfInBounds_self_of_lt (by omega)]
          rfl
      | succ j =>
          have hbehind : k + (j + 1) = k + 1 + j := by omega
          have hrest : k + 1 + j < (buffer.setIfInBounds k b).size := by
            rwa [Array.size_setIfInBounds, ← hbehind]
          rw [hbehind, ih (Nat.lt_of_succ_lt_succ hj) hrest, List.getElem?_cons_succ]

/-! ## Rows -/

lemma getElem?_flatMap_cellBytes {cells : List UInt8} {k c : Nat} (hc : c < channels) :
    (cells.flatMap cellBytes)[channels * k + c]? = cells[k]?.map (· * 255) := by
  induction cells generalizing k with
  | nil => rfl
  | cons cell cells ih =>
      rw [List.flatMap_cons]
      cases k with
      | zero =>
          have hhead : channels * 0 + c < (cellBytes cell).length := by
            simp only [length_cellBytes, channels] at *
            omega
          rw [List.getElem?_append_left hhead, cellBytes, List.getElem?_replicate]
          simp [hc]
      | succ k =>
          have hbehind : channels * (k + 1) + c = (cellBytes cell).length + (channels * k + c) := by
            simp only [length_cellBytes, channels]
            omega
          rw [hbehind, List.getElem?_append_right (Nat.le_add_right _ _), Nat.add_sub_cancel_left,
            ih, List.getElem?_cons_succ]

/-- A byte of a row belongs to the cell in its column. -/
lemma getElem?_rowBytes (frame : Display) {row column c : Nat} (hrow : row < displayHeight)
    (hcolumn : column < displayWidth) (hc : c < channels) :
    (rowBytes frame row)[channels * column + c]? =
      some (frame.pixel (Screen.cellAt column row) * 255) := by
  rw [rowBytes, getElem?_flatMap_cellBytes hc, List.getElem?_take_of_lt hcolumn,
    List.getElem?_drop, Vector.getElem?_toList, frame.getElem?_cell hrow hcolumn]
  rfl

/-! ## Screens -/

variable {frame : Display} {pitch : Nat} {buffer : Array UInt8}

/-- The rows of a screen laid into a buffer. -/
def writeRows (frame : Display) (pitch : Nat) (buffer : Array UInt8) (rows : List Nat) :
    Array UInt8 :=
  rows.foldl (fun buffer row => writeAt buffer (row * pitch) (rowBytes frame row)) buffer

lemma writeRows_cons (row : Nat) (rows : List Nat) :
    writeRows frame pitch buffer (row :: rows) =
      writeRows frame pitch (writeAt buffer (row * pitch) (rowBytes frame row)) rows := rfl

/-- A byte at which no row is laid stays. -/
lemma getElem?_writeRows_of_outside {rows : List Nat} {j : Nat}
    (hrows : ∀ row ∈ rows, row < displayHeight ∧ (j < row * pitch ∨ row * pitch + rowSize ≤ j)) :
    (writeRows frame pitch buffer rows)[j]? = buffer[j]? := by
  induction rows generalizing buffer with
  | nil => rfl
  | cons row rows ih =>
      obtain ⟨⟨hrow, hj⟩, hrows⟩ := List.forall_mem_cons.mp hrows
      rw [writeRows_cons, ih hrows, getElem?_writeAt_of_outside]
      rwa [length_rowBytes frame hrow]

/-- A row other than that of a byte is before the byte or behind it. -/
lemma outside_of_ne {row other j : Nat} (hpitch : rowSize ≤ pitch) (hj : j < rowSize)
    (hne : other ≠ row) : row * pitch + j < other * pitch ∨
      other * pitch + rowSize ≤ row * pitch + j := by
  rcases Nat.lt_or_gt_of_ne hne with hlt | hgt
  · have := Nat.mul_le_mul_right pitch hlt
    rw [Nat.succ_mul] at this
    omega
  · have := Nat.mul_le_mul_right pitch hgt
    rw [Nat.succ_mul] at this
    omega

/-- A byte within a row is the byte of this row. -/
lemma getElem?_writeRows_of_mem {rows : List Nat} {row j : Nat} (hpitch : rowSize ≤ pitch)
    (hrows : ∀ row ∈ rows, row < displayHeight) (hsize : buffer.size = displayHeight * pitch)
    (hrow : row ∈ rows) (hj : j < rowSize) :
    (writeRows frame pitch buffer rows)[row * pitch + j]? = (rowBytes frame row)[j]? := by
  induction rows generalizing buffer with
  | nil => cases hrow
  | cons first rows ih =>
      obtain ⟨hfirst, hrest⟩ := List.forall_mem_cons.mp hrows
      rw [writeRows_cons]
      by_cases hlater : row ∈ rows
      · exact ih hrest (by rw [size_writeAt, hsize]) hlater
      · -- The row is the first one, and none of the others reaches it.
        obtain rfl : row = first := (List.mem_cons.mp hrow).resolve_right hlater
        have hothers : ∀ other ∈ rows, other < displayHeight ∧
            (row * pitch + j < other * pitch ∨ other * pitch + rowSize ≤ row * pitch + j) :=
          fun other hother => ⟨hrest other hother,
            outside_of_ne hpitch hj fun e => hlater (e ▸ hother)⟩
        have hend : (row + 1) * pitch ≤ displayHeight * pitch := Nat.mul_le_mul_right pitch hfirst
        rw [Nat.succ_mul] at hend
        rw [getElem?_writeRows_of_outside hothers, getElem?_writeAt_of_lt]
        · rwa [length_rowBytes frame hfirst]
        · omega

/-- **A byte within a row belongs to one cell and one colour.** -/
theorem getElem?_upload (hpitch : rowSize ≤ pitch) (hsize : buffer.size = displayHeight * pitch)
    {row column c : Nat} (hrow : row < displayHeight) (hcolumn : column < displayWidth)
    (hc : c < channels) :
    (upload frame pitch buffer)[row * pitch + channels * column + c]? =
      some (frame.pixel (Screen.cellAt column row) * 255) := by
  have hj : channels * column + c < rowSize := by
    simp only [rowSize, channels, displayWidth] at *
    omega
  rw [Nat.add_assoc, ← getElem?_rowBytes frame hrow hcolumn hc]
  exact getElem?_writeRows_of_mem hpitch (fun row => List.mem_range.mp) hsize
    (List.mem_range.mpr hrow) hj

/-- Every cell of the screen is in the buffer as three bytes, which are full if the cell is lit and
empty if it is dark; row after row, a pitch apart. -/
def Depicts (buffer : Array UInt8) (pitch : Nat) (frame : Display) : Prop :=
  buffer.size = displayHeight * pitch ∧
    ∀ row < displayHeight, ∀ column < displayWidth, ∀ c < channels,
      buffer[row * pitch + channels * column + c]? =
        some (if frame.pixel (Screen.cellAt column row) = 1 then 255 else 0)

/-- **A black and white screen that was uploaded is shown.** -/
theorem depicts_upload (hpitch : rowSize ≤ pitch) (hsize : buffer.size = displayHeight * pitch)
    (hframe : ∀ k, frame.pixel k = 0 ∨ frame.pixel k = 1) :
    Depicts (upload frame pitch buffer) pitch frame := by
  refine ⟨by rw [size_upload, hsize], fun row hrow column hcolumn c hc => ?_⟩
  rw [getElem?_upload hpitch hsize hrow hcolumn hc]
  rcases hframe (Screen.cellAt column row) with h | h <;> rw [h] <;> rfl

end Texture

end ChipVm
