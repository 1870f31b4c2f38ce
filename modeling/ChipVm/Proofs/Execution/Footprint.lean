import ChipVm.Execution
import ChipVm.Proofs.Memory.Block

/-!
# What an instruction may change

A state has eight fields, and most instructions change one of them besides the program counter.
`Instruction.Within` lists, field by field, which instructions may change it and, for memory and the
registers, at which places.  What is not listed stays as it was.

* `Instruction.Covers` — the cells of memory that an instruction stores to.
* `Instruction.Sets` — the registers that it writes.
* **`Instruction.act_within`** — no instruction changes more.
-/

namespace ChipVm

/-! ## Places that are written -/

namespace Memory

/-- A block of bytes changes only the cells that it covers. -/
lemma covered_of_read_store_ne {m : Memory} {i a : UInt16} {bytes : List UInt8}
    (h : (m.store i bytes).read a ≠ m.read a) :
    ∃ k < bytes.length, (cell a).val = (i.toNat + k) % memorySize := by
  by_contra hout
  refine h (read_store_of_forall_ne m i a bytes fun k hk hcell => hout ⟨k, hk, ?_⟩)
  rw [← hcell, cell_add_ofNat, blockCell]

end Memory

lemma length_decimalDigits {value : Int} {digits : List UInt8}
    (h : decimalDigits value = .ok digits) : digits.length = 3 := by
  rw [decimalDigits] at h
  split_ifs at h
  obtain rfl := Except.ok.inj h
  rfl

lemma Registers.eq_of_read_write_ne {v : Registers} {x y : Fin 16} {b : UInt8}
    (h : (v.write x b).read y ≠ v.read y) : y = x := by
  by_contra hne
  exact h (by rw [read_write, if_neg (Ne.symm hne)])

lemma Registers.eq_of_read_write_write_ne {v : Registers} {x y z : Fin 16} {b c : UInt8}
    (h : ((v.write x b).write y c).read z ≠ v.read z) : z = x ∨ z = y := by
  by_cases hy : ((v.write x b).write y c).read z = (v.write x b).read z
  · exact .inl (eq_of_read_write_ne (hy ▸ h))
  · exact .inr (eq_of_read_write_ne hy)

namespace Instruction

/-- The instruction stores to the cell: one of three cells from the address register on for the
decimal digits of a register, or one cell for each of the registers that are stored. -/
def Covers (ins : Instruction) (w : Word) (s : State) (c : Fin memorySize) : Prop :=
  match ins with
  | .storeDecimal => ∃ k < 3, c.val = (s.i.toNat + k) % memorySize
  | .storeRegisters => ∃ k ≤ w.x.val, c.val = (s.i.toNat + k) % memorySize
  | _ => False

/-- The instruction writes the register: its result register, the flag register, or a whole block of
them. -/
def Sets (ins : Instruction) (w : Word) (x : Fin 16) : Prop :=
  match ins with
  | .setByte | .addByte | .copy | .or | .and | .xor | .random | .readDelay | .awaitKey => x = w.x
  | .add | .subtract | .shiftRight | .subtractFrom | .shiftLeft => x = w.x ∨ x = flagRegister
  | .draw => x = flagRegister
  | .loadRegisters => x ≤ w.x
  | _ => False

/-- Between the two states, nothing but the program counter differs apart from what the instruction
may change. -/
structure Within (ins : Instruction) (w : Word) (s t : State) : Prop where
  memory : ∀ a, t.memory.read a ≠ s.memory.read a → ins.Covers w s (cell a) := by
    exact fun _ h => absurd rfl h
  v : ∀ x, t.v.read x ≠ s.v.read x → ins.Sets w x := by exact fun _ h => absurd rfl h
  i : t.i ≠ s.i → ins = .setIndex ∨ ins = .addIndex ∨ ins = .pointGlyph := by
    exact fun h => absurd rfl h
  stack : t.stack ≠ s.stack → ins = .call ∨ ins = .ret := by exact fun h => absurd rfl h
  display : t.display ≠ s.display → ins = .clear ∨ ins = .draw := by exact fun h => absurd rfl h
  delayTimer : t.delayTimer ≠ s.delayTimer → ins = .setDelay := by exact fun h => absurd rfl h
  soundTimer : t.soundTimer ≠ s.soundTimer → ins = .setSound := by exact fun h => absurd rfl h

lemma within_goto (ins : Instruction) (w : Word) (s : State) (a : UInt16) :
    ins.Within w s { s with pc := a } := {}

variable {ins : Instruction} {w : Word} {input : Input} {s t : State}

lemma within_skipIf (ins : Instruction) (w : Word) (s : State) (p : Prop) [Decidable p] :
    ins.Within w s (s.skipIf p) := by
  rw [State.skipIf]
  split_ifs
  · exact within_goto ins w s _
  · exact {}

/-! ## Instructions -/

/-- **No instruction changes more than it may.** -/
theorem act_within (h : ins.act w input s = .ok t) : ins.Within w s t := by
  cases ins with
  | clear =>
      obtain rfl := Except.ok.inj h
      exact { display := fun _ => .inl rfl }
  | ret =>
      rw [act] at h
      split at h
      · cases h
      · obtain rfl := Except.ok.inj h
        exact { stack := fun _ => .inr rfl }
  | call =>
      obtain rfl := Except.ok.inj h
      exact { stack := fun _ => .inl rfl }
  | jump | jumpOffset =>
      obtain rfl := Except.ok.inj h
      exact within_goto _ w s _
  | skipIfByte | skipUnlessByte | skipIfEqual | skipUnlessEqual | skipIfHeld | skipUnlessHeld =>
      obtain rfl := Except.ok.inj h
      exact within_skipIf _ w s _
  | setByte | addByte | copy | or | and | xor | random | readDelay =>
      obtain rfl := Except.ok.inj h
      exact { v := fun _ => Registers.eq_of_read_write_ne }
  | add | subtract | shiftRight | subtractFrom | shiftLeft =>
      obtain rfl := Except.ok.inj h
      exact { v := fun _ => Registers.eq_of_read_write_write_ne }
  | setIndex =>
      obtain rfl := Except.ok.inj h
      exact { i := fun _ => .inl rfl }
  | addIndex =>
      obtain rfl := Except.ok.inj h
      exact { i := fun _ => .inr (.inl rfl) }
  | pointGlyph =>
      obtain rfl := Except.ok.inj h
      exact { i := fun _ => .inr (.inr rfl) }
  | draw =>
      obtain rfl := Except.ok.inj h
      exact { v := fun _ => Registers.eq_of_read_write_ne, display := fun _ => .inr rfl }
  | awaitKey =>
      rw [act] at h
      split at h
      · obtain rfl := Except.ok.inj h
        exact { v := fun _ => Registers.eq_of_read_write_ne }
      · obtain rfl := Except.ok.inj h
        exact within_goto _ w s _
  | setDelay =>
      obtain rfl := Except.ok.inj h
      exact { delayTimer := fun _ => rfl }
  | setSound =>
      obtain rfl := Except.ok.inj h
      exact { soundTimer := fun _ => rfl }
  | storeDecimal =>
      rw [act] at h
      split at h
      · rename_i digits hdigits
        obtain rfl := Except.ok.inj h
        refine { memory := fun a ha => ?_ }
        obtain ⟨k, hk, hcell⟩ := Memory.covered_of_read_store_ne ha
        exact ⟨k, length_decimalDigits hdigits ▸ hk, hcell⟩
      · cases h
  | storeRegisters =>
      obtain rfl := Except.ok.inj h
      refine { memory := fun a ha => ?_ }
      obtain ⟨k, hk, hcell⟩ := Memory.covered_of_read_store_ne ha
      exact ⟨k, Nat.le_of_lt_succ (Nat.lt_of_lt_of_le hk (List.length_take_le _ _)), hcell⟩
  | loadRegisters =>
      obtain rfl := Except.ok.inj h
      refine { v := fun x hx => ?_ }
      by_contra hout
      exact hx ((Registers.read_ofFn _ x).trans (if_neg hout))

/-- Moving the program counter on first is no change that counts. -/
lemma execute_within (h : ins.execute w input s = .ok t) : ins.Within w s t := by
  have hact : ins.Within w s.advance t := act_within h
  exact ⟨hact.memory, hact.v, hact.i, hact.stack, hact.display, hact.delayTimer, hact.soundTimer⟩

end Instruction

end ChipVm
