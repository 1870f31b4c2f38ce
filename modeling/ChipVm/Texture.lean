import ChipVm.State

/-!
# Textures

To be shown, a screen is turned into a texture: rows of cells, each cell three equal bytes for red,
green and blue, black for a dark cell and white for a lit one.  The buffer of a texture belongs to
the window system.  Its rows may be longer than the screen needs; the distance from the start of one
row to the start of the next is the pitch, and the bytes between the end of one row and the start
of the next are nobody's business and are left alone.

* `Texture.rowBytes` — the bytes of one row of a screen.
* `Texture.writeAt` — bytes laid into a buffer from an index on.
* `Texture.upload` — a whole screen, row by row.
* **`Texture.size_upload`** — uploading never changes the size of the buffer.
* **`Texture.length_rowBytes`** — a row of the screen is 192 bytes.
-/

namespace ChipVm

namespace Texture

/-- Number of bytes for one cell: red, green and blue. -/
def channels : Nat := 3

/-- Number of bytes for one row of the screen. -/
def rowSize : Nat := displayWidth * channels

/-- The bytes of one cell: none of each colour for a dark cell, all of each for a lit one. -/
def cellBytes (c : UInt8) : List UInt8 := List.replicate channels (c * 255)

/-- The bytes of one row of the screen, from left to right. -/
def rowBytes (frame : Display) (row : Nat) : List UInt8 :=
  ((frame.toList.drop (row * displayWidth)).take displayWidth).flatMap cellBytes

/-- The buffer with the bytes laid down one after the other from index `k` on. -/
def writeAt (buffer : Array UInt8) (k : Nat) : List UInt8 → Array UInt8
  | [] => buffer
  | b :: bytes => writeAt (buffer.setIfInBounds k b) (k + 1) bytes

/-- The buffer with the rows of the screen laid down `pitch` bytes apart. -/
def upload (frame : Display) (pitch : Nat) (buffer : Array UInt8) : Array UInt8 :=
  (List.range displayHeight).foldl
    (fun buffer row => writeAt buffer (row * pitch) (rowBytes frame row)) buffer

@[simp] theorem size_writeAt (buffer : Array UInt8) (k : Nat) (bytes : List UInt8) :
    (writeAt buffer k bytes).size = buffer.size := by
  induction bytes generalizing buffer k with
  | nil => rfl
  | cons b rest ih => simp [writeAt, ih]

/-- **The size of the buffer stays.** -/
@[simp] theorem size_upload (frame : Display) (pitch : Nat) (buffer : Array UInt8) :
    (upload frame pitch buffer).size = buffer.size := by
  unfold upload
  generalize List.range displayHeight = rows
  induction rows generalizing buffer with
  | nil => rfl
  | cons row rest ih => simp [ih]

@[simp] theorem length_cellBytes (c : UInt8) : (cellBytes c).length = 3 := rfl

theorem length_flatMap_cellBytes (cells : List UInt8) :
    (cells.flatMap cellBytes).length = 3 * cells.length := by
  induction cells with
  | nil => rfl
  | cons c rest ih =>
      simp only [List.flatMap_cons, List.length_append, length_cellBytes, List.length_cons, ih]
      omega

/-- **A row of the screen is 192 bytes.** -/
theorem length_rowBytes (frame : Display) {row : Nat} (h : row < displayHeight) :
    (rowBytes frame row).length = rowSize := by
  have hrow : row < 32 := h
  have hlen : frame.toList.length = 2048 := Vector.length_toList
  simp only [rowBytes, length_flatMap_cellBytes, List.length_take, List.length_drop, hlen,
    displayWidth, rowSize, channels]
  omega

end Texture

end ChipVm
