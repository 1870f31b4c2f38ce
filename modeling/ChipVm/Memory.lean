import ChipVm.Layout

/-!
# Memory

Memory is a block of 4096 bytes in which every 16-bit address names a byte: only the lower twelve
bits are looked at, so reading and writing never fail and a block that starts near the end goes on
at the beginning.

* `Memory.read` — the byte at an address.
* `Memory.write` — one byte replaced.
* `Memory.store` — a list of bytes laid down from an address upwards.
* **`Memory.read_write`** — a write is seen at the addresses that name the same cell, and at no
  other.
* **`Memory.read_store_of_forall_ne`** — a block changes nothing outside the cells it covers.
-/

namespace ChipVm

/-- The bytes of the address space. -/
abbrev Memory := Vector UInt8 memorySize

namespace Memory

/-- Memory full of zeros. -/
def zero : Memory := Vector.replicate memorySize 0

/-- The byte at the cell that `a` names. -/
def read (m : Memory) (a : UInt16) : UInt8 := m[cell a]

/-- Memory with the byte at the cell that `a` names replaced. -/
def write (m : Memory) (a : UInt16) (b : UInt8) : Memory :=
  m.set (cell a) b (cell a).isLt

/-- Memory with the bytes laid down one after the other from `a` upwards. -/
def store (m : Memory) (a : UInt16) : List UInt8 → Memory
  | [] => m
  | b :: bytes => store (m.write a b) (a + 1) bytes

/-- **A write is seen exactly at the addresses of its cell.** -/
theorem read_write (m : Memory) (a c : UInt16) (b : UInt8) :
    (m.write a b).read c = if cell a = cell c then b else m.read c := by
  by_cases h : cell a = cell c
  · simp [read, write, h]
  · have hval : (cell a).val ≠ (cell c).val := fun e => h (Fin.ext e)
    simpa [read, write, h] using Vector.getElem_set_ne (cell a).isLt (cell c).isLt hval

@[simp] theorem store_cons (m : Memory) (a : UInt16) (b : UInt8) (bytes : List UInt8) :
    m.store a (b :: bytes) = (m.write a b).store (a + 1) bytes := rfl

/-- **A block changes nothing outside the cells it covers.** -/
theorem read_store_of_forall_ne (m : Memory) (a c : UInt16) (bytes : List UInt8)
    (h : ∀ k < bytes.length, cell (a + UInt16.ofNat k) ≠ cell c) :
    (m.store a bytes).read c = m.read c := by
  induction bytes generalizing m a with
  | nil => rfl
  | cons b rest ih =>
      have h0 : cell a ≠ cell c := by simpa using h 0 (by simp)
      rw [store_cons, ih, read_write, if_neg h0]
      intro k hk
      -- The rest of the block starts one address later.
      have hstep : a + 1 + UInt16.ofNat k = a + UInt16.ofNat (k + 1) := by
        rw [UInt16.add_assoc]
        congr 1
        apply UInt16.toNat_inj.mp
        simp [Nat.add_comm]
      rw [hstep]
      exact h (k + 1) (by simpa using hk)

end Memory

end ChipVm
