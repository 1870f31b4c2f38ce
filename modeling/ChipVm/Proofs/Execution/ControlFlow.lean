import ChipVm.Proofs.Execution.AddressSpace
import ChipVm.Proofs.Instruction.Table

/-!
# Where an instruction leads

After most instructions a program goes on at the next word, two bytes further.  The exceptions are
jumps, calls and returns, the instruction that waits for a key, and the six skips.  A skip comes in
two forms that test the same thing and decide oppositely, whatever the operands.

* `Instruction.Skips` — the condition that a skip tests.
* `Instruction.LeadsTo` — the address at which each instruction goes on.
* `Instruction.opposite?` — the other form of a skip, and `Operands.Agree` — words with the same
  operands.
* **`Instruction.execute_leadsTo`** — each instruction goes on there.
* **`State.obey_opposite`** — the two forms of a skip decide oppositely.
-/

namespace ChipVm

/-! ## Addresses -/

lemma wrapAddress_add_wrapAddress (a k : UInt16) :
    wrapAddress (wrapAddress a + k) = wrapAddress (a + k) :=
  wrapAddress_congr (cell_add (cell_wrapAddress a) k)

/-- Within the address space, two words on is not one word on. -/
lemma wrapAddress_add_four_ne (a : UInt16) : wrapAddress (a + 4) ≠ wrapAddress (a + 2) := by
  intro h
  have hnat := congrArg UInt16.toNat h
  have hfour : (4 : UInt16).toNat = 4 := rfl
  have htwo : (2 : UInt16).toNat = 2 := rfl
  rw [wrapAddress_toNat, wrapAddress_toNat, UInt16.toNat_add, UInt16.toNat_add, hfour, htwo] at hnat
  omega

/-- An instruction at `pc` goes on at `a`, which is two words further if the condition holds and one
word further if not. -/
structure Branches (p : Prop) (pc a : UInt16) : Prop where
  skips_iff : a = wrapAddress (pc + 4) ↔ p
  follows_iff : a = wrapAddress (pc + 2) ↔ ¬ p

lemma State.branches_skipIf (s : State) {p q : Prop} [Decidable p] (hq : p ↔ q) :
    Branches q s.pc (s.advance.skipIf p).pc := by
  have htwice : s.advance.advance.pc = wrapAddress (s.pc + 4) := by
    show wrapAddress (wrapAddress (s.pc + 2) + 2) = wrapAddress (s.pc + 4)
    rw [wrapAddress_add_wrapAddress, UInt16.add_assoc]
    rfl
  rw [skipIf, ← hq]
  split_ifs with h
  · rw [htwice]
    exact ⟨by simp [h], by simp [h, wrapAddress_add_four_ne]⟩
  · exact ⟨by simp [h, advance, (wrapAddress_add_four_ne s.pc).symm], by simp [h, advance]⟩

/-! ## The next address -/

namespace Instruction

/-- The condition under which an instruction skips the next one. -/
def Skips (ins : Instruction) (w : Word) (input : Input) (s : State) : Prop :=
  match ins with
  | .skipIfByte => s.v.read w.x = w.kk
  | .skipUnlessByte => s.v.read w.x ≠ w.kk
  | .skipIfEqual => s.v.read w.x = s.v.read w.y
  | .skipUnlessEqual => s.v.read w.x ≠ s.v.read w.y
  | .skipIfHeld => input.keys.isHeld (s.v.read w.x) = true
  | .skipUnlessHeld => input.keys.isHeld (s.v.read w.x) = false
  | _ => False

/-- From the given state, the instruction goes on at address `a`. -/
def LeadsTo (ins : Instruction) (w : Word) (input : Input) (s : State) (a : UInt16) : Prop :=
  match ins with
  | .ret => s.stack.head? = some a
  | .jump | .call => a = w.nnn
  | .jumpOffset => a.toNat = ((s.v.read firstRegister).toNat + w.nnn.toNat) % memorySize
  | .awaitKey =>
      ((∀ k, input.keys.isDown k = false) → a = wrapAddress s.pc) ∧
        ((∃ k, input.keys.isDown k = true) → a = wrapAddress (s.pc + 2))
  | .skipIfByte | .skipUnlessByte | .skipIfEqual | .skipUnlessEqual | .skipIfHeld
  | .skipUnlessHeld => Branches (ins.Skips w input s) s.pc a
  | _ => a = wrapAddress (s.pc + 2)

variable {ins : Instruction} {w : Word} {input : Input} {s t : State}

/-- **Each instruction goes on where it leads.** -/
theorem execute_leadsTo (h : ins.execute w input s = .ok t) : ins.LeadsTo w input s t.pc := by
  rw [execute] at h
  cases ins with
  | ret =>
      rw [act] at h
      split at h
      · cases h
      · rename_i a outer hstack
        obtain rfl := Except.ok.inj h
        exact congrArg List.head? hstack
  | jumpOffset =>
      obtain rfl := Except.ok.inj h
      show (wrapAddress ((s.v.read firstRegister).toUInt16 + w.nnn)).toNat = _
      have hv := (s.v.read firstRegister).toNat_lt
      have hnnn := w.nnn_toNat
      rw [wrapAddress_toNat, UInt16.toNat_add, UInt8.toNat_toUInt16, memorySize]
      omega
  | awaitKey =>
      rw [act] at h
      split at h
      · rename_i k hk
        obtain rfl := Except.ok.inj h
        have hdown := Keypad.held_of_lowest? hk
        exact ⟨fun hnone => by simp [hnone k] at hdown, fun _ => rfl⟩
      · rename_i hk
        obtain rfl := Except.ok.inj h
        have hnone := (Keypad.lowest?_eq_none_iff _).mp hk
        refine ⟨fun _ => by rw [State.rewind_advance], ?_⟩
        rintro ⟨k, hdown⟩
        simp [hnone k] at hdown
  | skipIfByte | skipUnlessByte | skipIfEqual | skipUnlessEqual | skipIfHeld | skipUnlessHeld =>
      obtain rfl := Except.ok.inj h
      exact s.branches_skipIf Iff.rfl
  | storeDecimal =>
      rw [act] at h
      split at h
      · obtain rfl := Except.ok.inj h
        rfl
      · cases h
  | _ =>
      obtain rfl := Except.ok.inj h
      rfl

end Instruction

/-! ## Skips come in pairs -/

/-- The words have the same operands. -/
def Operands.Agree (o : Operands) (w u : Word) : Prop :=
  match o with
  | .nothing => True
  | .address => w.nnn = u.nnn
  | .registerByte => w.x = u.x ∧ w.kk = u.kk
  | .registers => w.x = u.x ∧ w.y = u.y
  | .sprite => w.x = u.x ∧ w.y = u.y ∧ w.n = u.n
  | .register => w.x = u.x

namespace Instruction

/-- The skip that tests the same thing and decides oppositely. -/
def opposite? : Instruction → Option Instruction
  | .skipIfByte => some .skipUnlessByte
  | .skipIfEqual => some .skipUnlessEqual
  | .skipIfHeld => some .skipUnlessHeld
  | _ => none

variable {a b : Instruction} {w u : Word}

lemma skips_opposite (h : a.opposite? = some b) (hagree : a.shape.Agree w u) (input : Input)
    (s : State) : b.Skips u input s ↔ ¬ a.Skips w input s := by
  cases a <;> cases h
  case skipIfByte =>
    obtain ⟨hx, hkk⟩ := hagree
    simp only [Skips, hx, hkk, ne_eq]
  case skipIfEqual =>
    obtain ⟨hx, hy⟩ := hagree
    simp only [Skips, hx, hy, ne_eq]
  case skipIfHeld =>
    have hx : w.x = u.x := hagree
    simp only [Skips, hx, Bool.not_eq_true]

/-- A skip does not fail. -/
lemma exists_execute_of_opposite? (h : a.opposite? = some b) (w u : Word) (input : Input)
    (s : State) : (∃ t, a.execute w input s = .ok t) ∧ ∃ t, b.execute u input s = .ok t := by
  cases a <;> cases h <;> exact ⟨⟨_, rfl⟩, ⟨_, rfl⟩⟩

lemma branches_of_opposite? (h : a.opposite? = some b) {input : Input} {s : State} {c d : UInt16}
    (hc : a.LeadsTo w input s c) (hd : b.LeadsTo u input s d) :
    Branches (a.Skips w input s) s.pc c ∧ Branches (b.Skips u input s) s.pc d := by
  cases a <;> cases h <;> exact ⟨hc, hd⟩

end Instruction

/-- **The two forms of a skip decide oppositely** on the same operands: one goes on at the next word
and the other one skips it. -/
theorem State.obey_opposite {a b : Instruction} {w u : Word} (h : a.opposite? = some b)
    (hw : a.pattern.Fits w) (hu : b.pattern.Fits u) (hagree : a.shape.Agree w u) (input : Input)
    (s : State) :
    ∃ t t', s.obey w input = .ok t ∧ s.obey u input = .ok t' ∧
      (t.pc = wrapAddress (s.pc + 4) ∧ t'.pc = wrapAddress (s.pc + 2) ∨
        t.pc = wrapAddress (s.pc + 2) ∧ t'.pc = wrapAddress (s.pc + 4)) := by
  obtain ⟨⟨t, ht⟩, ⟨t', ht'⟩⟩ := Instruction.exists_execute_of_opposite? h w u input s
  obtain ⟨hc, hd⟩ := Instruction.branches_of_opposite? h (Instruction.execute_leadsTo ht)
    (Instruction.execute_leadsTo ht')
  rw [Instruction.skips_opposite h hagree] at hd
  refine ⟨t, t', by rw [obey_of_fits hw, ht], by rw [obey_of_fits hu, ht'], ?_⟩
  by_cases hskips : a.Skips w input s
  · exact .inl ⟨hc.skips_iff.mpr hskips, hd.follows_iff.mpr (not_not.mpr hskips)⟩
  · exact .inr ⟨hc.follows_iff.mpr hskips, hd.skips_iff.mpr hskips⟩

end ChipVm
