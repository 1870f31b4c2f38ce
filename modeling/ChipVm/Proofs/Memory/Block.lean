import ChipVm.Memory
import Mathlib.Tactic.Common

/-!
# Blocks of memory

A block that is laid down goes on at the beginning of memory when it reaches the end.  As long as it
is no longer than memory it does not come round to itself, and each of its bytes can be read back.

* `blockCell` — the cells of a block; `cell_add_ne` — near addresses are different cells.
* **`Memory.read_store`** — a block is read back.
* **`Memory.store_of_forall_read`** — storing what is there already changes nothing.
-/

namespace ChipVm

/-- The cell at place `k` of a block that begins at address `a`. -/
def blockCell (a : UInt16) (k : Nat) : Fin memorySize :=
  ⟨(a.toNat + k) % memorySize, Nat.mod_lt _ (by decide)⟩

/-- An address that overflows names the same cell. -/
lemma cell_add_ofNat (a : UInt16) (k : Nat) : cell (a + UInt16.ofNat k) = blockCell a k := by
  refine Fin.ext ?_
  simp only [cell_val, blockCell, memorySize, UInt16.toNat_add, UInt16.toNat_ofNat']
  omega

/-- Addresses less than the size of memory apart are different cells. -/
lemma cell_add_ne (a : UInt16) {k : Nat} (hpos : 0 < k) (hk : k < memorySize) :
    cell (a + UInt16.ofNat k) ≠ cell a := by
  have hlt : k < 4096 := hk
  intro h
  rw [cell_add_ofNat] at h
  have hval := congrArg Fin.val h
  simp only [cell_val, blockCell, memorySize] at hval
  omega

lemma add_one_add_ofNat (a : UInt16) (k : Nat) :
    a + 1 + UInt16.ofNat k = a + UInt16.ofNat (k + 1) := by
  rw [UInt16.ofNat_add, UInt16.add_assoc, UInt16.add_comm 1]
  rfl

/-- **A block is read back.** -/
theorem Memory.read_store (m : Memory) (a : UInt16) (bytes : List UInt8)
    (hlength : bytes.length ≤ memorySize) {k : Nat} (hk : k < bytes.length) :
    (m.store a bytes).read (a + UInt16.ofNat k) = bytes[k] := by
  induction bytes generalizing m a k with
  | nil => exact absurd hk (Nat.not_lt_zero k)
  | cons b bytes ih =>
      rw [List.length_cons] at hlength hk
      rw [store_cons]
      cases k with
      | zero =>
          have hzero : a + UInt16.ofNat 0 = a := UInt16.add_zero a
          -- The rest of the block does not come round to its first byte.
          have hrest : ∀ j < bytes.length, cell (a + 1 + UInt16.ofNat j) ≠ cell a := by
            intro j hj
            rw [add_one_add_ofNat]
            exact cell_add_ne a (Nat.succ_pos j) (by omega)
          rw [hzero, read_store_of_forall_ne _ _ _ _ hrest, read_write, if_pos rfl]
          rfl
      | succ k =>
          rw [← add_one_add_ofNat, ih _ _ (by omega) (by omega), List.getElem_cons_succ]

/-- The same with the cell in place of the address. -/
lemma Memory.read_store_of_cell (m : Memory) {a c : UInt16} (bytes : List UInt8)
    (hlength : bytes.length ≤ memorySize) {k : Nat} (hk : k < bytes.length)
    (hc : cell c = blockCell a k) : (m.store a bytes).read c = bytes[k] := by
  rw [← m.read_store a bytes hlength hk]
  simp only [read, hc, cell_add_ofNat]

lemma Memory.write_read (m : Memory) (a : UInt16) : m.write a (m.read a) = m :=
  Vector.set_getElem_self _

/-- **Storing what is there already changes nothing.** -/
theorem Memory.store_of_forall_read (m : Memory) (a : UInt16) (bytes : List UInt8)
    (h : ∀ k, (hk : k < bytes.length) → bytes[k] = m.read (a + UInt16.ofNat k)) :
    m.store a bytes = m := by
  induction bytes generalizing a with
  | nil => rfl
  | cons b bytes ih =>
      have hb : b = m.read a := by
        have hzero := h 0 (Nat.succ_pos _)
        rwa [show a + UInt16.ofNat 0 = a from UInt16.add_zero a] at hzero
      rw [store_cons, hb, write_read]
      refine ih (a + 1) fun k hk => ?_
      rw [add_one_add_ofNat, ← h (k + 1) (Nat.succ_lt_succ hk)]
      rfl

/-- A longer block has its last byte at the end. -/
lemma Memory.store_concat (m : Memory) (a : UInt16) (bytes : List UInt8) (b : UInt8) :
    m.store a (bytes ++ [b]) = (m.store a bytes).write (a + UInt16.ofNat bytes.length) b := by
  induction bytes generalizing m a with
  | nil => exact congrArg (fun a => m.write a b) (UInt16.add_zero a).symm
  | cons c bytes ih =>
      rw [List.cons_append, store_cons, ih, store_cons, add_one_add_ofNat, List.length_cons]

end ChipVm
