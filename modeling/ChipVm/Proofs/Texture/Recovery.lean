import ChipVm.Proofs.Bounds.Showing
import ChipVm.Proofs.Texture.Upload

/-!
# Reading a screen off its texture

However long the rows of a texture are, a black and white screen that is laid into it can be read
off again: every cell has a byte of its own, which says whether the cell is lit, and every byte that
belongs to no cell is left as it was.  So no two screens look alike in a texture, whatever the
textures held before.

* `Texture.getElem?_upload_of_padding` — the bytes between two rows.
* `Texture.shown` — the screen that a buffer shows.
* `Texture.shown_upload` — the screen that was laid into a buffer is the one that it shows.
* **`Texture.upload_exact`** — every byte of a buffer into which a screen was laid.
-/

namespace ChipVm

namespace Texture

variable {frame : Display} {pitch : Nat} {buffer : Array UInt8}

/-- **A byte between two rows stays.** -/
lemma getElem?_upload_of_padding {j : Nat} (hj : rowSize ≤ j) (hpitch : j < pitch) (row : Nat) :
    (upload frame pitch buffer)[row * pitch + j]? = buffer[row * pitch + j]? := by
  refine getElem?_writeRows_of_outside fun other hother => ⟨List.mem_range.mp hother, ?_⟩
  rcases Nat.lt_or_ge row other with hlt | hge
  · have hnext := Nat.mul_le_mul_right pitch hlt
    rw [Nat.succ_mul] at hnext
    omega
  · have hbefore := Nat.mul_le_mul_right pitch hge
    omega

/-- The colour of a cell that is dark or lit is no larger than a byte. -/
lemma toNat_intensity {c : UInt8} (h : c ≤ 1) : (c * 255).toNat = 255 * c.toNat := by
  rcases eq_zero_or_one_of_le h with rfl | rfl <;> rfl

/-- The screen that a buffer shows: a cell is lit if the first of its bytes is full. -/
def shown (buffer : Array UInt8) (pitch : Nat) : Display :=
  Vector.ofFn fun k =>
    if buffer[k.val / displayWidth * pitch + channels * (k.val % displayWidth)]? = some 255 then 1
    else 0

/-- **A black and white screen is read off the buffer that it was laid into.** -/
lemma shown_upload (hframe : ∀ k, frame.pixel k ≤ 1) (hpitch : rowSize ≤ pitch)
    (hsize : buffer.size = displayHeight * pitch) :
    shown (upload frame pitch buffer) pitch = frame := by
  refine Display.ext_pixel fun k => ?_
  have hrow : k.val / displayWidth < displayHeight :=
    Nat.div_lt_of_lt_mul k.isLt
  have hcolumn : k.val % displayWidth < displayWidth := Nat.mod_lt _ (by decide)
  have hcell : Screen.cellAt (k.val % displayWidth) (k.val / displayWidth) = k := by
    apply Fin.ext
    simp only [Screen.cellAt, Nat.mod_eq_of_lt hrow, Nat.mod_mod]
    rw [Nat.mul_comm]
    exact Nat.mod_add_div _ _
  have hbyte : (upload frame pitch buffer)[k.val / displayWidth * pitch +
      channels * (k.val % displayWidth)]? = some (frame.pixel k * 255) := by
    rw [← Nat.add_zero (_ + _), getElem?_upload hpitch hsize hrow hcolumn (by decide), hcell]
  have hpixel : (shown (upload frame pitch buffer) pitch).pixel k =
      if some (frame.pixel k * 255) = some 255 then 1 else 0 := by
    rw [← hbyte]
    exact Vector.getElem_ofFn _
  rw [hpixel]
  rcases eq_zero_or_one_of_le (hframe k) with h | h <;> rw [h] <;> rfl

/-- **Every byte of an upload.**  A black and white screen is laid into a buffer whose rows are at
least as long as its own, whatever they held.  Nothing is out of bounds and the buffer keeps its
size.  Every cell is there three times, full if it is lit and empty if it is dark, and every byte
between two rows stays what it was.  The screen can be read off the buffer, and no other screen
leads to the same one. -/
theorem upload_exact (hframe : ∀ k, frame.pixel k ≤ 1) (hpitch : rowSize ≤ pitch)
    (hsize : buffer.size = displayHeight * pitch) :
    (buffer.size < USize.size →
      upload? frame pitch buffer = some (upload frame pitch buffer)) ∧
    (upload frame pitch buffer).size = buffer.size ∧
    (∀ row < displayHeight, ∀ column < displayWidth, ∀ c < channels, ∃ cell byte,
      frame[row * displayWidth + column]? = some cell ∧
      (upload frame pitch buffer)[row * pitch + channels * column + c]? = some byte ∧
      byte.toNat = 255 * cell.toNat) ∧
    (∀ row < displayHeight, ∀ j, rowSize ≤ j → j < pitch →
      (upload frame pitch buffer)[row * pitch + j]? = buffer[row * pitch + j]?) ∧
    shown (upload frame pitch buffer) pitch = frame ∧
    ∀ (other : Display) (buffer' : Array UInt8), (∀ k, other.pixel k ≤ 1) →
      buffer'.size = displayHeight * pitch →
      upload other pitch buffer' = upload frame pitch buffer → other = frame := by
  refine ⟨upload?_eq hframe hpitch hsize, size_upload frame pitch buffer, ?_, ?_,
    shown_upload hframe hpitch hsize, ?_⟩
  · intro row hrow column hcolumn c hc
    exact ⟨_, _, frame.getElem?_cell hrow hcolumn, getElem?_upload hpitch hsize hrow hcolumn hc,
      toNat_intensity (hframe _)⟩
  · intro row _ j hj hjp
    exact getElem?_upload_of_padding hj hjp row
  · intro other buffer' hother hsize' hsame
    calc other = shown (upload other pitch buffer') pitch :=
          (shown_upload hother hpitch hsize').symm
      _ = shown (upload frame pitch buffer) pitch := by rw [hsame]
      _ = frame := shown_upload hframe hpitch hsize

/-- A screen on which only the last cell is lit. -/
def lastLit : Display := Display.dark.paint (Screen.cellAt 63 31) 1

/-- A new texture whose rows are three bytes longer than they have to be. -/
def paddedBuffer : Array UInt8 := Array.replicate 6240 7

/-- The last cell fills the last three bytes that belong to a cell, the byte behind them is left
alone, and an empty screen leads to another texture. -/
theorem upload_exact_padded :
    (∀ k, lastLit.pixel k ≤ 1) ∧ rowSize ≤ 195 ∧ paddedBuffer.size = displayHeight * 195 ∧
      (∃ byte, (upload lastLit 195 paddedBuffer)[31 * 195 + channels * 63 + 2]? = some byte ∧
        byte.toNat = 255) ∧
      (upload lastLit 195 paddedBuffer)[31 * 195 + 192]? = some 7 ∧
      shown (upload lastLit 195 paddedBuffer) 195 = lastLit ∧
      upload Display.dark 195 paddedBuffer ≠ upload lastLit 195 paddedBuffer := by
  have hlit : lastLit.pixel (Screen.cellAt 63 31) = 1 := by
    rw [lastLit, Display.pixel_paint, if_pos rfl]
  have hframe : ∀ k, lastLit.pixel k ≤ 1 := by
    intro k
    rw [lastLit, Display.pixel_paint]
    split_ifs
    · decide
    · rw [Display.pixel_dark]
      decide
  have hpitch : rowSize ≤ 195 := by decide
  have hsize : paddedBuffer.size = displayHeight * 195 := Array.size_replicate
  obtain ⟨-, -, hcells, hpadding, hshown, honly⟩ := upload_exact hframe hpitch hsize
  refine ⟨hframe, hpitch, hsize, ?_, ?_, hshown, fun hsame => ?_⟩
  · obtain ⟨cell, byte, hcell, hbyte, hvalue⟩ :=
      hcells 31 (by decide) 63 (by decide) 2 (by decide)
    rw [lastLit.getElem?_cell (by decide) (by decide), hlit] at hcell
    obtain rfl := Option.some.inj hcell
    exact ⟨byte, hbyte, hvalue⟩
  · rw [hpadding 31 (by decide) 192 (by decide) (by decide), paddedBuffer, Array.getElem?_replicate]
    decide
  · have hdark : ∀ k, Display.dark.pixel k ≤ 1 := fun k => by
      rw [Display.pixel_dark]
      decide
    rw [← honly Display.dark paddedBuffer hdark hsize hsame, Display.pixel_dark] at hlit
    cases hlit

end Texture

end ChipVm
