import ChipVm.Proofs.Instruction.Table
import ChipVm.Proofs.Memory.Block

/-!
# Registers in memory and back

Two instructions move a block of registers, from `V0` to `Vx`, into memory and out of it.  Both
count up from the address register, and both find the same cells: an address that reaches the end of
memory, or the end of its sixteen bits, goes on at the beginning, and a block is short enough not to
come round to itself.  So each of the two undoes the other one.

A third instruction writes the decimal digits of a register into a block of three cells, from where
they can be loaded.

* `State.stored`, `State.loaded`, `State.digitsStored` — the states that the three lead to.
* `State.read_loaded_of_stored`, `State.memory_stored_of_loaded` — stored registers are loaded
  again, and a block that was loaded is stored again.
* **`State.transfers_exact`** — both of these, the cells that are written, and the digits of a
  register.
-/

namespace ChipVm

/-! ## Digits -/

/-- The digits of a byte: hundreds, tens and ones. -/
def digitsOf (b : UInt8) : List UInt8 := [b / 100, b / 10 % 10, b % 10]

lemma decimalDigits_toNat (b : UInt8) : decimalDigits b.toNat = .ok (digitsOf b) := by
  have hb := b.toNat_lt
  have hrange : (0 : Int) ≤ b.toNat ∧ (b.toNat : Int) ≤ 255 := by omega
  rw [decimalDigits, if_pos hrange, Int.toNat_natCast, UInt8.ofNat_toNat, digitsOf]

/-- They are digits, and they stand for the byte. -/
lemma digits_exact (b : UInt8) :
    b / 100 ≤ 9 ∧ b / 10 % 10 ≤ 9 ∧ b % 10 ≤ 9 ∧
      100 * (b / 100).toNat + 10 * (b / 10 % 10).toNat + (b % 10).toNat = b.toNat := by
  have hb := b.toNat_lt
  simp only [UInt8.le_iff_toNat_le, UInt8.toNat_div, UInt8.toNat_mod, UInt8.reduceToNat]
  omega

namespace State

variable {s t u : State} {w w' : Word} {input : Input}

/-! ## The three instructions -/

/-- The registers from `V0` to `Vx`, in order. -/
def blockOf (v : Registers) (x : Fin 16) : List UInt8 := v.toList.take (x.val + 1)

/-- The state after registers were stored. -/
def stored (s : State) (w : Word) : State :=
  { s.advance with memory := s.memory.store s.i (blockOf s.v w.x) }

/-- The state after registers were loaded. -/
def loaded (s : State) (w : Word) : State :=
  { s.advance with
    v := Registers.ofFn fun k => if k ≤ w.x then s.read (s.i + UInt16.ofNat k.val) else s.v.read k }

/-- The state after the digits of a register were stored. -/
def digitsStored (s : State) (w : Word) : State :=
  { s.advance with memory := s.memory.store s.i (digitsOf (s.v.read w.x)) }

lemma memory_stored (s : State) (w : Word) :
    (s.stored w).memory = s.memory.store s.i (blockOf s.v w.x) := rfl

lemma memory_loaded (s : State) (w : Word) : (s.loaded w).memory = s.memory := rfl

lemma i_loaded (s : State) (w : Word) : (s.loaded w).i = s.i := rfl

lemma memory_digitsStored (s : State) (w : Word) :
    (s.digitsStored w).memory = s.memory.store s.i (digitsOf (s.v.read w.x)) := rfl

lemma obey_storeRegisters (hw : Instruction.storeRegisters.pattern.Fits w) (s : State)
    (input : Input) : s.obey w input = .ok (s.stored w) :=
  obey_of_fits hw

lemma obey_loadRegisters (hw : Instruction.loadRegisters.pattern.Fits w) (s : State)
    (input : Input) : s.obey w input = .ok (s.loaded w) :=
  obey_of_fits hw

/-- A register always has digits. -/
lemma obey_storeDecimal (hw : Instruction.storeDecimal.pattern.Fits w) (s : State)
    (input : Input) : s.obey w input = .ok (s.digitsStored w) := by
  have hdigits : decimalDigits (s.advance.v.read w.x).toNat = .ok (digitsOf (s.v.read w.x)) :=
    decimalDigits_toNat _
  rw [obey_of_fits hw, Instruction.execute, Instruction.act, hdigits]
  rfl

/-! ## Blocks -/

lemma length_blockOf (v : Registers) (x : Fin 16) : (blockOf v x).length = x.val + 1 := by
  have hx := x.isLt
  rw [blockOf, List.length_take, Vector.length_toList]
  omega

/-- The places of a block are the numbers of its registers. -/
lemma exists_of_lt_length_blockOf {v : Registers} {x : Fin 16} {k : Nat}
    (hk : k < (blockOf v x).length) : ∃ j : Fin 16, j ≤ x ∧ j.val = k := by
  rw [length_blockOf] at hk
  exact ⟨⟨k, Nat.lt_of_lt_of_le hk x.isLt⟩, Nat.le_of_lt_succ hk, rfl⟩

lemma getElem_blockOf (v : Registers) {x k : Fin 16} (hk : k.val < (blockOf v x).length) :
    (blockOf v x)[k.val] = v.read k := by
  simp only [blockOf, List.getElem_take, Vector.getElem_toList]
  rfl

/-- A register is stored to its cell of the block. -/
lemma read_stored (s : State) {k : Fin 16} (hk : k ≤ w.x) {a : UInt16}
    (ha : cell a = blockCell s.i k) : (s.stored w).memory.read a = s.v.read k := by
  have hlength : (blockOf s.v w.x).length ≤ memorySize := by
    have hx := w.x.isLt
    rw [length_blockOf, memorySize]
    omega
  have hlt : k.val < (blockOf s.v w.x).length := length_blockOf s.v w.x ▸ Nat.lt_succ_of_le hk
  rw [← getElem_blockOf s.v hlt]
  exact s.memory.read_store_of_cell _ hlength hlt ha

/-- No other cell is written. -/
lemma read_stored_of_forall_ne (s : State) {a : UInt16}
    (ha : ∀ k : Fin 16, k ≤ w.x → cell a ≠ blockCell s.i k) :
    (s.stored w).memory.read a = s.memory.read a := by
  refine s.memory.read_store_of_forall_ne s.i a _ fun k hk => ?_
  obtain ⟨j, hj, rfl⟩ := exists_of_lt_length_blockOf hk
  rw [cell_add_ofNat]
  exact (ha j hj).symm

lemma read_loaded (s : State) (w : Word) (k : Fin 16) :
    (s.loaded w).v.read k =
      if k ≤ w.x then s.memory.read (s.i + UInt16.ofNat k.val) else s.v.read k :=
  Registers.read_ofFn _ k

/-! ## There and back -/

/-- **Stored registers are loaded again,** from any state that has the memory and the address
register still. -/
lemma read_loaded_of_stored (hmemory : u.memory = (s.stored w).memory) (hi : u.i = s.i)
    (hx : w'.x = w.x) {k : Fin 16} (hk : k ≤ w.x) : (u.loaded w').v.read k = s.v.read k := by
  rw [read_loaded, hx, if_pos hk, hmemory, hi]
  exact s.read_stored hk (cell_add_ofNat s.i k.val)

/-- **Registers that were loaded are stored to where they came from.** -/
lemma memory_stored_of_loaded (s : State) (hx : w'.x = w.x) :
    ((s.loaded w).stored w').memory = s.memory := by
  rw [memory_stored, memory_loaded, i_loaded]
  refine s.memory.store_of_forall_read s.i _ fun k hk => ?_
  obtain ⟨j, hj, rfl⟩ := exists_of_lt_length_blockOf hk
  rw [getElem_blockOf, read_loaded, if_pos (hx ▸ hj)]

/-- **Digits that were stored are loaded** as the first three registers. -/
lemma read_loaded_of_digitsStored (s : State) (w : Word) (hx : w'.x = 2) :
    ((s.digitsStored w).loaded w').v.read 0 = s.v.read w.x / 100 ∧
      ((s.digitsStored w).loaded w').v.read 1 = s.v.read w.x / 10 % 10 ∧
      ((s.digitsStored w).loaded w').v.read 2 = s.v.read w.x % 10 := by
  have hlength : (digitsOf (s.v.read w.x)).length = 3 := rfl
  have hdigit : ∀ k : Fin 16, (hk : k.val < (digitsOf (s.v.read w.x)).length) →
      ((s.digitsStored w).loaded w').v.read k = (digitsOf (s.v.read w.x))[k.val] := by
    intro k hk
    have hle : k ≤ 2 := Nat.le_of_lt_succ hk
    rw [read_loaded, hx, if_pos hle, memory_digitsStored]
    exact s.memory.read_store s.i _ (hlength ▸ by decide) hk
  exact ⟨hdigit 0 (by simp [hlength]), hdigit 1 (by simp [hlength]), hdigit 2 (by simp [hlength])⟩

lemma read_digitsStored_of_forall_ne (s : State) {a : UInt16}
    (ha : ∀ k < 3, cell a ≠ blockCell s.i k) :
    (s.digitsStored w).memory.read a = s.memory.read a := by
  refine s.memory.read_store_of_forall_ne s.i a _ fun k hk => ?_
  rw [cell_add_ofNat]
  exact (ha k hk).symm

/-- **Registers are stored and loaded exactly,** wherever the block lies.

After registers were stored, the cells of the block hold them, and no other cell and not the address
register has changed; from then on, in any state with this memory and this address register,
whatever is in its registers, loading as many gives the stored ones back and leaves the others
alone.  Loading registers and storing them again leaves memory as it was.  And the digits of a
register that are stored and then loaded are digits, and stand for the register. -/
theorem transfers_exact :
    (∀ (s : State) (w : Word) (input : Input), Instruction.storeRegisters.pattern.Fits w →
      ∃ t, s.obey w input = .ok t ∧ t.i = s.i ∧
        (∀ k ≤ w.x, ∀ a, cell a = blockCell s.i k → t.memory.read a = s.v.read k) ∧
        (∀ a, (∀ k ≤ w.x, cell a ≠ blockCell s.i k) → t.memory.read a = s.memory.read a) ∧
        ∀ (u : State) (w' : Word) (input' : Input), u.memory = t.memory → u.i = t.i →
          Instruction.loadRegisters.pattern.Fits w' → w'.x = w.x →
            ∃ r, u.obey w' input' = .ok r ∧ (∀ k ≤ w.x, r.v.read k = s.v.read k) ∧
              ∀ k > w.x, r.v.read k = u.v.read k) ∧
    (∀ (s : State) (w w' : Word) (input input' : Input),
      Instruction.loadRegisters.pattern.Fits w → Instruction.storeRegisters.pattern.Fits w' →
      w'.x = w.x →
        ∃ t t', s.obey w input = .ok t ∧ t.obey w' input' = .ok t' ∧ t'.memory = s.memory) ∧
    ∀ (s : State) (w : Word) (input input' : Input), Instruction.storeDecimal.pattern.Fits w →
      ∃ t t', s.obey w input = .ok t ∧ t.obey 0xF265 input' = .ok t' ∧
        (∀ k ≤ 2, t'.v.read k ≤ 9) ∧
        100 * (t'.v.read 0).toNat + 10 * (t'.v.read 1).toNat + (t'.v.read 2).toNat =
          (s.v.read w.x).toNat ∧
        (∀ a, (∀ k < 3, cell a ≠ blockCell s.i k) → t.memory.read a = s.memory.read a) ∧
        t'.memory = t.memory := by
  refine ⟨fun s w input hw => ?_, fun s w w' input input' hw hw' hx => ?_,
    fun s w input input' hw => ?_⟩
  · refine ⟨_, s.obey_storeRegisters hw input, rfl, fun k hk a => s.read_stored hk,
      fun a => s.read_stored_of_forall_ne, fun u w' input' hmemory hi hw' hx => ?_⟩
    refine ⟨_, u.obey_loadRegisters hw' input', fun k => read_loaded_of_stored hmemory hi hx,
      fun k hk => ?_⟩
    rw [read_loaded, hx, if_neg (Fin.not_le.mpr hk)]
  · exact ⟨_, _, s.obey_loadRegisters hw input, obey_storeRegisters hw' _ input',
      s.memory_stored_of_loaded hx⟩
  · have hw' : Instruction.loadRegisters.pattern.Fits 0xF265 :=
      Instruction.fits_of_ofWord? (by decide)
    have hx : Word.x 0xF265 = 2 := rfl
    obtain ⟨hundreds, htens, hones⟩ := s.read_loaded_of_digitsStored w hx
    obtain ⟨hhundreds, htens_le, hones_le, hsum⟩ := digits_exact (s.v.read w.x)
    refine ⟨_, _, s.obey_storeDecimal hw input, obey_loadRegisters hw' _ input', fun k hk => ?_,
      ?_, fun a => s.read_digitsStored_of_forall_ne, rfl⟩
    · have hcases : k = 0 ∨ k = 1 ∨ k = 2 := by omega
      rcases hcases with rfl | rfl | rfl
      · rwa [hundreds]
      · rwa [htens]
      · rwa [hones]
    · rwa [hundreds, htens, hones]

/-- Four registers at the upper end of the address register, which go on at the beginning of
memory. -/
theorem transfers_exact_wrapping :
    let input : Input := ⟨Keypad.released, 0⟩
    let s := { fresh with i := 0xFFFE, v := (Registers.zero.write 0 7).write 3 254 }
    (∃ t, s.obey 0xF355 input = .ok t ∧ t.memory.read 0x0FFE = 7 ∧ t.memory.read 0x0001 = 254 ∧
        ∃ r, { t with v := Registers.zero }.obey 0xF365 input = .ok r ∧ r.v.read 3 = 254) ∧
      (∃ t t', s.obey 0xF365 input = .ok t ∧ t.obey 0xF355 input = .ok t' ∧
        t'.memory = s.memory) ∧
      ∃ t t', s.obey 0xF333 input = .ok t ∧ t.obey 0xF265 input = .ok t' ∧
        100 * (t'.v.read 0).toNat + 10 * (t'.v.read 1).toNat + (t'.v.read 2).toNat = 254 := by
  intro input s
  have hstore : Instruction.storeRegisters.pattern.Fits 0xF355 :=
    Instruction.fits_of_ofWord? (by decide)
  have hload : Instruction.loadRegisters.pattern.Fits 0xF365 :=
    Instruction.fits_of_ofWord? (by decide)
  have hdecimal : Instruction.storeDecimal.pattern.Fits 0xF333 :=
    Instruction.fits_of_ofWord? (by decide)
  obtain ⟨hstored, hback, hdigits⟩ := transfers_exact
  obtain ⟨t, ht, -, hblock, -, hloaded⟩ := hstored s 0xF355 input hstore
  obtain ⟨r, hr, hregisters, -⟩ :=
    hloaded { t with v := Registers.zero } 0xF365 input rfl rfl hload rfl
  obtain ⟨u, u', hu, hu', -, hsum, -⟩ := hdigits s 0xF333 input input hdecimal
  refine ⟨⟨t, ht, ?_, ?_, r, hr, ?_⟩, hback s 0xF365 0xF355 input input hload hstore rfl, u, u',
    hu, hu', ?_⟩
  · exact (hblock 0 (by decide) 0x0FFE (by decide)).trans (by decide)
  · exact (hblock 3 (by decide) 0x0001 (by decide)).trans (by decide)
  · exact (hregisters 3 (by decide)).trans (by decide)
  · exact hsum.trans (by decide)

end State

end ChipVm
