import ChipVm.Proofs.Instruction.Table

/-!
# Arithmetic and its flag

Five instructions leave a result and a flag behind.  A byte is too small for some of the results,
and the flag says what is missing: the carry of a sum, or the bit that a shift moves out.  Read as
natural numbers, the two together are what was to be computed.  After a difference the flag says
which of the operands was the larger one, and the result is taken modulo 256.

The operands, the result and the flag may share registers.  Both operands are read before anything
is written and the flag is written last, so that the flag is right in every case, and the result is
there unless its register is the flag register.

* `Instruction.flagged` — the five instructions.
* `Instruction.Flags`, `Instruction.Results` — what they report, and what they compute.
* `State.exists_obey_of_flagged` — each of them writes a result and then a flag that are right.
* `State.Reports` — what this means for the registers, whichever of them are the same.
* **`State.arithmetic_exact`** — what is in the registers afterwards, and that a sum is undone by
  taking the second operand away again.
-/

namespace ChipVm

/-! ## What is computed -/

namespace Instruction

/-- The instructions that leave a result and a flag behind. -/
def flagged : List Instruction := [add, subtract, shiftRight, subtractFrom, shiftLeft]

/-- `flag` is what the instruction reports for the operands `a` and `b`. -/
def Flags (ins : Instruction) (a b flag : Nat) : Prop :=
  match ins with
  | .add => flag = 1 ↔ 256 ≤ a + b
  | .subtract => flag = 1 ↔ b < a
  | .shiftRight => flag = a % 2
  | .subtractFrom => flag = 1 ↔ a < b
  | .shiftLeft => flag = a / 128
  | _ => False

/-- `result` is what the instruction computes from the operands `a` and `b`, next to `flag`. -/
def Results (ins : Instruction) (a b result flag : Nat) : Prop :=
  match ins with
  | .add => result + 256 * flag = a + b
  | .subtract => (result : Int) = ((a : Int) - b) % 256
  | .shiftRight => 2 * result + flag = a
  | .subtractFrom => (result : Int) = ((b : Int) - a) % 256
  | .shiftLeft => result + 256 * flag = 2 * a
  | _ => False

end Instruction

/-! ## Bytes -/

lemma flagOf_toNat (p : Prop) [Decidable p] : (flagOf p).toNat = if p then 1 else 0 := by
  rw [flagOf]
  split_ifs <;> rfl

lemma flagOf_toNat_le (p : Prop) [Decidable p] : (flagOf p).toNat ≤ 1 := by
  rw [flagOf_toNat]
  split_ifs <;> decide

lemma flagOf_toNat_eq_one_iff (p : Prop) [Decidable p] : (flagOf p).toNat = 1 ↔ p := by
  rw [flagOf_toNat]
  split_ifs with h <;> simp [h]

/-- A sum of bytes and its carry. -/
lemma toNat_add_carry (a b : UInt8) :
    (a + b).toNat + 256 * (flagOf (256 ≤ a.toNat + b.toNat)).toNat = a.toNat + b.toNat := by
  have ha := a.toNat_lt
  have hb := b.toNat_lt
  rw [flagOf_toNat, UInt8.toNat_add]
  split_ifs <;> omega

/-- A difference of bytes is one modulo 256. -/
lemma toNat_sub_emod (a b : UInt8) : ((a - b).toNat : Int) = ((a.toNat : Int) - b.toNat) % 256 := by
  have hb := b.toNat_lt
  rw [UInt8.toNat_sub]
  omega

/-- Halving a byte leaves its last bit over. -/
lemma toNat_shiftRight_bit (a : UInt8) :
    (a &&& 1).toNat = a.toNat % 2 ∧ 2 * (a >>> 1).toNat + (a &&& 1).toNat = a.toNat := by
  have hbit : (a &&& 1).toNat = a.toNat % 2 := by
    rw [UInt8.toNat_and]
    exact Nat.and_one_is_mod a.toNat
  have hhalf : (a >>> 1).toNat = a.toNat / 2 := by
    rw [UInt8.toNat_shiftRight]
    exact Nat.shiftRight_eq_div_pow a.toNat 1
  rw [hbit, hhalf]
  exact ⟨rfl, Nat.div_add_mod a.toNat 2⟩

/-- Doubling a byte moves its first bit out. -/
lemma toNat_shiftLeft_bit (a : UInt8) :
    (a >>> 7).toNat = a.toNat / 128 ∧ (a <<< 1).toNat + 256 * (a >>> 7).toNat = 2 * a.toNat := by
  have hbit : (a >>> 7).toNat = a.toNat / 128 := by
    rw [UInt8.toNat_shiftRight]
    exact Nat.shiftRight_eq_div_pow a.toNat 7
  have hdouble : (a <<< 1).toNat = a.toNat * 2 % 256 := by
    rw [UInt8.toNat_shiftLeft]
    exact congrArg (· % 256) (Nat.shiftLeft_eq a.toNat 1)
  rw [hbit, hdouble]
  refine ⟨rfl, ?_⟩
  omega

/-! ## Registers -/

namespace State

variable {s : State} {w : Word} {ins : Instruction}

/-- The flag is written last. -/
lemma read_setFlagged_flag (s : State) (x : Fin 16) (b flag : UInt8) :
    (s.setFlagged x b flag).v.read flagRegister = flag :=
  Registers.read_write_self _ _ _

/-- The result stays unless the flag takes its place. -/
lemma read_setFlagged_result {x : Fin 16} (hx : x ≠ flagRegister) (s : State) (b flag : UInt8) :
    (s.setFlagged x b flag).v.read x = b := by
  rw [setFlagged, v_setV, Registers.read_write, if_neg hx.symm, v_setV, Registers.read_write_self]

lemma read_setFlagged_of_ne {x z : Fin 16} (hx : z ≠ x) (hflag : z ≠ flagRegister) (s : State)
    (b flag : UInt8) : (s.setFlagged x b flag).v.read z = s.v.read z := by
  rw [setFlagged, v_setV, Registers.read_write, if_neg hflag.symm, v_setV, Registers.read_write,
    if_neg hx.symm]

/-! ## The five instructions -/

/-- **A result and then a flag are written, and both are right** for the operands that were in the
registers before. -/
lemma exists_obey_of_flagged (hins : ins ∈ Instruction.flagged) (hw : ins.pattern.Fits w)
    (input : Input) (s : State) :
    ∃ result flag : UInt8, s.obey w input = .ok (s.advance.setFlagged w.x result flag) ∧
      flag.toNat ≤ 1 ∧ ins.Flags (s.v.read w.x).toNat (s.v.read w.y).toNat flag.toNat ∧
      ins.Results (s.v.read w.x).toNat (s.v.read w.y).toNat result.toNat flag.toNat := by
  have ha := (s.v.read w.x).toNat_lt
  rw [obey_of_fits hw]
  simp only [Instruction.flagged, List.mem_cons, List.not_mem_nil, or_false] at hins
  rcases hins with rfl | rfl | rfl | rfl | rfl
  · exact ⟨_, _, rfl, flagOf_toNat_le _, flagOf_toNat_eq_one_iff _, toNat_add_carry _ _⟩
  · exact ⟨_, _, rfl, flagOf_toNat_le _, flagOf_toNat_eq_one_iff _, toNat_sub_emod _ _⟩
  · obtain ⟨hbit, hresult⟩ := toNat_shiftRight_bit (s.v.read w.x)
    have hle : (s.v.read w.x &&& 1).toNat ≤ 1 := by omega
    exact ⟨_, _, rfl, hle, hbit, hresult⟩
  · exact ⟨_, _, rfl, flagOf_toNat_le _, flagOf_toNat_eq_one_iff _, toNat_sub_emod _ _⟩
  · obtain ⟨hbit, hresult⟩ := toNat_shiftLeft_bit (s.v.read w.x)
    have hle : (s.v.read w.x >>> 7).toNat ≤ 1 := by omega
    exact ⟨_, _, rfl, hle, hbit, hresult⟩

/-- What an instruction with a flag leaves behind, whichever of the registers are the same: the flag
is there in any case, and the result unless its register is the flag register. -/
structure Reports (ins : Instruction) (w : Word) (s t : State) : Prop where
  flag_le : (t.v.read flagRegister).toNat ≤ 1
  flag : ins.Flags (s.v.read w.x).toNat (s.v.read w.y).toNat (t.v.read flagRegister).toNat
  result : w.x ≠ flagRegister → ins.Results (s.v.read w.x).toNat (s.v.read w.y).toNat
    (t.v.read w.x).toNat (t.v.read flagRegister).toNat
  kept : ∀ z, z ≠ w.x → z ≠ flagRegister → t.v.read z = s.v.read z
  rest : t = { s.advance with v := t.v }

lemma reports_of_flagged (hins : ins ∈ Instruction.flagged) (hw : ins.pattern.Fits w)
    (input : Input) (s : State) : ∃ t, s.obey w input = .ok t ∧ Reports ins w s t := by
  obtain ⟨result, flag, hobey, hle, hflag, hresult⟩ := exists_obey_of_flagged hins hw input s
  refine ⟨_, hobey, ?_, ?_, fun hx => ?_, fun z hz hzflag => ?_, rfl⟩
  · rwa [read_setFlagged_flag]
  · rwa [read_setFlagged_flag]
  · rwa [read_setFlagged_flag, read_setFlagged_result hx]
  · exact read_setFlagged_of_ne hz hzflag s.advance result flag

/-- **A sum is undone by taking the second operand away again,** unless one of the two is in the
flag register or they are the same. -/
lemma subtract_add (hw : Instruction.add.pattern.Fits w) {u : Word}
    (hu : Instruction.subtract.pattern.Fits u) (hx : u.x = w.x) (hy : u.y = w.y) (hne : w.x ≠ w.y)
    (hxflag : w.x ≠ flagRegister) (hyflag : w.y ≠ flagRegister) (s : State) (input input' : Input) :
    ∃ t t', s.obey w input = .ok t ∧ t.obey u input' = .ok t' ∧
      ∀ z ≠ flagRegister, t'.v.read z = s.v.read z := by
  obtain ⟨t, ht, hsum⟩ := reports_of_flagged (by decide) hw input s
  obtain ⟨t', ht', hdifference⟩ := reports_of_flagged (by decide) hu input' t
  refine ⟨t, t', ht, ht', fun z hz => ?_⟩
  by_cases hzx : z = w.x
  · have hadded := hsum.result hxflag
    have htaken := hdifference.result (hx ▸ hxflag)
    have ha := (s.v.read w.x).toNat_lt
    simp only [Instruction.Results, hx, hy, hsum.kept w.y hne.symm hyflag] at hadded htaken
    rw [hzx, ← UInt8.toNat_inj]
    -- Modulo 256 it does not matter what the sum lost to the carry.
    omega
  · rw [hdifference.kept z (hx ▸ hzx) hz, hsum.kept z hzx hz]

/-- **Arithmetic is exact, whichever registers coincide.**  After each of the five instructions the
flag register holds the flag for the operands that were in the registers before; the result register
holds the result unless it is the flag register; and no other register changes.  In particular
subtracting undoes adding. -/
theorem arithmetic_exact :
    (∀ ins ∈ Instruction.flagged, ∀ (s : State) (w : Word) (input : Input), ins.pattern.Fits w →
      ∃ t, s.obey w input = .ok t ∧ Reports ins w s t) ∧
    ∀ (s : State) (w u : Word) (input input' : Input), Instruction.add.pattern.Fits w →
      Instruction.subtract.pattern.Fits u → u.x = w.x → u.y = w.y → w.x ≠ w.y →
      w.x ≠ flagRegister → w.y ≠ flagRegister →
        ∃ t t', s.obey w input = .ok t ∧ t.obey u input' = .ok t' ∧
          ∀ z ≠ flagRegister, t'.v.read z = s.v.read z :=
  ⟨fun _ hins s _ input hw => reports_of_flagged hins hw input s,
    fun s _ _ input input' hw hu hx hy hne hxflag hyflag =>
      subtract_add hw hu hx hy hne hxflag hyflag s input input'⟩

/-- The flag register added to itself keeps the carry only, and 200 is back after 100 was added to
it and taken away again. -/
theorem arithmetic_exact_carry :
    let input : Input := ⟨Keypad.released, 0⟩
    let s := { blank with v := ((Registers.zero.write 1 200).write 2 100).write 15 200 }
    (∃ t, s.obey 0x8FF4 input = .ok t ∧ t.v.read 15 = 1) ∧
      ∃ t t', s.obey 0x8124 input = .ok t ∧ t.obey 0x8125 input = .ok t' ∧ t'.v.read 1 = 200 := by
  intro input s
  have hdouble : Instruction.add.pattern.Fits 0x8FF4 := Instruction.fits_of_ofWord? (by decide)
  have hadd : Instruction.add.pattern.Fits 0x8124 := Instruction.fits_of_ofWord? (by decide)
  have hsubtract : Instruction.subtract.pattern.Fits 0x8125 :=
    Instruction.fits_of_ofWord? (by decide)
  obtain ⟨hexact, hundone⟩ := arithmetic_exact
  obtain ⟨t, ht, hsum⟩ := hexact .add (by decide) s 0x8FF4 input hdouble
  obtain ⟨u, u', hu, hu', hkept⟩ := hundone s 0x8124 0x8125 input input hadd hsubtract
    (by decide) (by decide) (by decide) (by decide) (by decide)
  refine ⟨⟨t, ht, UInt8.toNat_inj.mp (hsum.flag.mpr (by decide))⟩, u, u', hu, hu', ?_⟩
  rw [hkept 1 (by decide)]
  decide

end State

end ChipVm
