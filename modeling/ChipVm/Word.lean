import ChipVm.Layout

/-!
# Instruction words

Every instruction is one 16-bit word.  Its four hexadecimal digits are read from left to right as
a leading digit that selects a family, and operands whose place is the same in every instruction
that has them: `x` and `y` name registers, `n` is a nibble, `kk` a byte and `nnn` an address.

* `Word.lead`, `Word.x`, `Word.y`, `Word.n`, `Word.kk`, `Word.nnn` — the fields.
* `Word.ofBytes` — the word two consecutive bytes of memory make, first byte on top.
* **`Word.nnn_le`** — the address field always lies in the address space.
-/

namespace ChipVm

/-- A 16-bit instruction word. -/
abbrev Word := UInt16

namespace Word

/-- The word whose upper byte is `high` and whose lower byte is `low`. -/
def ofBytes (high low : UInt8) : Word :=
  high.toUInt16 <<< 8 ||| low.toUInt16

/-- The leading digit, which selects the family of the instruction. -/
def lead (w : Word) : Nat := w.toNat / 0x1000

/-- The second digit: the first register operand. -/
def x (w : Word) : Fin 16 :=
  ⟨w.toNat / 0x100 % 16, Nat.mod_lt _ (by decide)⟩

/-- The third digit: the second register operand. -/
def y (w : Word) : Fin 16 :=
  ⟨w.toNat / 0x10 % 16, Nat.mod_lt _ (by decide)⟩

/-- The last digit. -/
def n (w : Word) : Nat := w.toNat % 16

/-- The lower byte. -/
def kk (w : Word) : UInt8 := w.toUInt8

/-- The lower three digits: an address. -/
def nnn (w : Word) : UInt16 := w &&& 0x0FFF

theorem lead_lt (w : Word) : lead w < 16 := by
  have := w.toNat_lt
  unfold lead
  omega

theorem n_lt (w : Word) : n w < 16 := Nat.mod_lt _ (by decide)

@[simp] theorem kk_toNat (w : Word) : (kk w).toNat = w.toNat % 256 := by
  simp [kk]

@[simp] theorem nnn_toNat (w : Word) : (nnn w).toNat = w.toNat % 4096 :=
  wrapAddress_toNat w

/-- **The address field lies in the address space.** -/
theorem nnn_le (w : Word) : nnn w ≤ addressMask :=
  wrapAddress_le w

end Word

end ChipVm
