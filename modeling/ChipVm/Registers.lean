/-!
# Registers

The processor has sixteen general registers of one byte, `V0` to `VF`.  The last one is the flag:
arithmetic reports a carry there and drawing a collision.

* `Registers`, `Registers.zero` — the registers, and all of them zero.
* `Registers.read`, `Registers.write` — one register.
* `Registers.ofFn` — all of them at once.
* **`Registers.read_write`** — a write is seen in its own register and in no other.
* **`Registers.ext_read`** — registers that read the same are the same.
-/

namespace ChipVm

/-- The sixteen general registers `V0` to `VF`. -/
abbrev Registers := Vector UInt8 16

/-- The register that the jump with an offset reads. -/
def firstRegister : Fin 16 := 0

/-- The register that arithmetic and drawing report to. -/
def flagRegister : Fin 16 := 15

namespace Registers

/-- Every register is zero. -/
def zero : Registers := Vector.replicate 16 0

/-- The byte in register `x`. -/
def read (v : Registers) (x : Fin 16) : UInt8 := v[x]

/-- The registers with the byte in register `x` replaced. -/
def write (v : Registers) (x : Fin 16) (b : UInt8) : Registers := v.set x b x.isLt

/-- The registers with the given bytes. -/
def ofFn (f : Fin 16 → UInt8) : Registers := Vector.ofFn f

@[simp] theorem read_ofFn (f : Fin 16 → UInt8) (x : Fin 16) : read (ofFn f) x = f x := by
  simp [read, ofFn]

/-- **A write is seen in its own register and in no other.** -/
theorem read_write (v : Registers) (x y : Fin 16) (b : UInt8) :
    read (write v x b) y = if x = y then b else read v y := by
  by_cases h : x = y
  · simp [read, write, h]
  · have hval : x.val ≠ y.val := fun e => h (Fin.ext e)
    simpa [read, write, h] using Vector.getElem_set_ne x.isLt y.isLt hval

@[simp] theorem read_write_self (v : Registers) (x : Fin 16) (b : UInt8) :
    read (write v x b) x = b := by
  simp [read_write]

/-- **Registers that read the same are the same.** -/
theorem ext_read {v w : Registers} (h : ∀ x, read v x = read w x) : v = w :=
  Vector.ext fun k hk => h ⟨k, hk⟩

end Registers

end ChipVm
