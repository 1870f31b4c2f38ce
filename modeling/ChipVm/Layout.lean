/-!
# The fixed sizes of the machine

A CHIP-8 machine has one address space of 4096 bytes, a screen of 64 by 32 cells, a keypad of
sixteen keys and sixteen registers.  All sizes used elsewhere are named here, once.

* `memorySize`, `addressMask` — the address space is 12 bits wide.
* `programStart`, `maxRomSize` — programs begin at `0x200` and may fill the rest of memory.
* `displayWidth`, `displayHeight`, `displaySize` — the screen, stored row by row.
* `wrapAddress` — the 12-bit reading of an address, and `cell` — the memory cell it names.
* **`wrapAddress_toNat`** — both agree: an address is taken modulo `memorySize`.
-/

namespace ChipVm

/-- Number of bytes of addressable memory. -/
def memorySize : Nat := 4096

/-- The bits of an address that are looked at. -/
def addressMask : UInt16 := 0x0FFF

/-- The address of the first byte of a program. -/
def programStart : UInt16 := 0x0200

/-- The most bytes a program may have: everything from `programStart` to the end of memory. -/
def maxRomSize : Nat := 3584

/-- Number of cells in a row of the screen. -/
def displayWidth : Nat := 64

/-- Number of rows of the screen. -/
def displayHeight : Nat := 32

/-- Number of cells of the screen. -/
def displaySize : Nat := 2048

/-- Number of keys of the keypad. -/
def keyCount : Nat := 16

/-- Number of rows, and so of bytes, of the glyph of a digit. -/
def glyphSize : Nat := 5

/-- Nanoseconds between two instructions at the usual speed. -/
def clockSpeed : Nat := 2000000

/-- How many times the timers are offered a tick for each one they take. -/
def cyclesPerTimerTick : Nat := 8

/-! ## Addresses -/

/-- The address brought into the 12-bit address space. -/
def wrapAddress (a : UInt16) : UInt16 := a &&& addressMask

/-- The memory cell that an address names, whatever its upper four bits. -/
def cell (a : UInt16) : Fin memorySize :=
  ⟨a.toNat % memorySize, Nat.mod_lt _ (by decide)⟩

@[simp] theorem cell_val (a : UInt16) : (cell a).val = a.toNat % 4096 := rfl

/-- **Masking is reduction modulo the size of memory.** -/
@[simp] theorem wrapAddress_toNat (a : UInt16) : (wrapAddress a).toNat = a.toNat % 4096 := by
  simpa [wrapAddress, addressMask] using Nat.and_two_pow_sub_one_eq_mod a.toNat 12

/-- A wrapped address is at most `0xFFF`. -/
theorem wrapAddress_le (a : UInt16) : wrapAddress a ≤ addressMask := by
  rw [UInt16.le_iff_toNat_le, wrapAddress_toNat]
  have : addressMask.toNat = 4095 := rfl
  omega

/-- An address that lies in the address space is left as it is. -/
theorem wrapAddress_of_le {a : UInt16} (h : a ≤ addressMask) : wrapAddress a = a := by
  rw [UInt16.le_iff_toNat_le] at h
  rw [← UInt16.toNat_inj, wrapAddress_toNat]
  exact Nat.mod_eq_of_lt (Nat.lt_succ_of_le h)

/-- An address and its wrapped form name the same cell. -/
@[simp] theorem cell_wrapAddress (a : UInt16) : cell (wrapAddress a) = cell a := by
  apply Fin.ext
  simp

end ChipVm
