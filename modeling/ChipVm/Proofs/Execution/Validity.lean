import ChipVm.Run
import Mathlib.Tactic.Common

/-!
# Instructions keep states valid

What can leave the bounds of a valid state is the display, the program counter and the stack.  The
display is changed by drawing, which lays cells that are 0 or 1 over cells that are 0 or 1.  The
program counter is set to a wrapped address, to the address field of a word, or to a return address,
and only program counters become return addresses.  All other instructions leave the three alone.

* **`Drawing.Binary.draw`** — drawing on a black and white display gives one again.
* **`Instruction.act_valid`** — each instruction keeps a state valid, and so does a cycle
  (`State.Valid.cycle`).
-/

namespace ChipVm

/-! ## Drawing -/

lemma eq_zero_or_one_of_le {b : UInt8} (h : b ≤ 1) : b = 0 ∨ b = 1 := by
  rw [UInt8.le_iff_toNat_le] at h
  rcases Nat.le_one_iff_eq_zero_or_eq_one.mp h with h | h
  · exact Or.inl (UInt8.toNat_inj.mp h)
  · exact Or.inr (UInt8.toNat_inj.mp h)

/-- The display drawn on is black and white. -/
def Drawing.Binary (d : Drawing) : Prop := ∀ k, d.display.pixel k ≤ 1

namespace Drawing

lemma xor_le_one {a b : UInt8} (ha : a ≤ 1) (hb : b ≤ 1) : a ^^^ b ≤ 1 := by
  rw [UInt8.le_iff_toNat_le] at ha hb ⊢
  rw [UInt8.toNat_xor]
  have hlt : a.toNat ^^^ b.toNat < 2 ^ 1 :=
    Nat.xor_lt_two_pow (Nat.lt_succ_of_le ha) (Nat.lt_succ_of_le hb)
  exact Nat.le_of_lt_succ hlt

lemma Binary.flip {d : Drawing} (h : d.Binary) (k : Fin displaySize) {bit : UInt8}
    (hbit : bit ≤ 1) : (d.flip k bit).Binary := by
  intro j
  rw [pixel_flip]
  split_ifs
  · exact xor_le_one (h j) hbit
  · exact h j

lemma Binary.drawRow {d : Drawing} (h : d.Binary) (x y : Nat) (row : UInt8) :
    (Sprite.drawRow x y row d).Binary := by
  rw [Sprite.drawRow]
  generalize List.range 8 = columns
  induction columns generalizing d with
  | nil => exact h
  | cons column columns ih => exact ih (h.flip _ (Sprite.pixel_le row column))

/-- **Drawing on a black and white display gives one again.** -/
theorem Binary.draw {display : Display} (h : ∀ k, display.pixel k ≤ 1) (memory : Memory)
    (i : UInt16) (x y : UInt8) (height : Nat) :
    (Sprite.draw memory i x y height display).Binary := by
  have hrows : ∀ (rows : List Nat) (d : Drawing), d.Binary →
      (rows.foldl (fun d k => Sprite.drawRow x.toNat (y.toNat + k)
        (memory.read (i + UInt16.ofNat k)) d) d).Binary := by
    intro rows
    induction rows with
    | nil => exact fun _ hd => hd
    | cons k rows ih => exact fun d hd => ih _ (hd.drawRow x.toNat (y.toNat + k) _)
  exact hrows (List.range height) (Drawing.start display) h

end Drawing

/-! ## Small steps -/

namespace State

variable {s t : State}

/-- Only the display, the program counter and the stack matter. -/
lemma Valid.of_eq (h : s.Valid) (hdisplay : t.display = s.display) (hpc : t.pc = s.pc)
    (hstack : t.stack = s.stack) : t.Valid :=
  ⟨hdisplay ▸ h.display_le, hpc ▸ h.pc_le, hstack ▸ h.stack_le⟩

lemma Valid.goto (h : s.Valid) {a : UInt16} (ha : a ≤ addressMask) : { s with pc := a }.Valid :=
  ⟨h.display_le, ha, h.stack_le⟩

lemma Valid.advance (h : s.Valid) : s.advance.Valid := h.goto (wrapAddress_le _)

lemma Valid.rewind (h : s.Valid) : s.rewind.Valid := h.goto (wrapAddress_le _)

lemma Valid.skipIf (h : s.Valid) (p : Prop) [Decidable p] : (s.skipIf p).Valid := by
  rw [State.skipIf]
  split_ifs
  · exact h.advance
  · exact h

lemma Valid.setV (h : s.Valid) (x : Fin 16) (b : UInt8) : (s.setV x b).Valid :=
  h.of_eq rfl rfl rfl

lemma Valid.setFlagged (h : s.Valid) (x : Fin 16) (b flag : UInt8) :
    (s.setFlagged x b flag).Valid :=
  h.of_eq rfl rfl rfl

lemma Valid.paint (h : s.Valid) {d : Drawing} (hd : d.Binary) :
    { s with display := d.display }.Valid :=
  ⟨hd, h.pc_le, h.stack_le⟩

end State

/-! ## Instructions -/

/-- **An instruction keeps a state valid.** -/
theorem Instruction.act_valid {ins : Instruction} {w : Word} {input : Input} {s t : State}
    (hs : s.Valid) (h : ins.act w input s = .ok t) : t.Valid := by
  cases ins with
  | clear =>
      obtain rfl := Except.ok.inj h
      exact ⟨fun k => by simp, hs.pc_le, hs.stack_le⟩
  | ret =>
      rw [act] at h
      rcases hstack : s.stack with _ | ⟨a, outer⟩
      · simp [hstack] at h
      · simp only [hstack, Except.ok.injEq] at h
        obtain rfl := h
        have hle := hs.stack_le
        rw [hstack] at hle
        obtain ⟨ha, houter⟩ := List.forall_mem_cons.mp hle
        exact ⟨hs.display_le, ha, houter⟩
  | jump =>
      obtain rfl := Except.ok.inj h
      exact hs.goto w.nnn_le
  | call =>
      obtain rfl := Except.ok.inj h
      exact ⟨hs.display_le, w.nnn_le, List.forall_mem_cons.mpr ⟨hs.pc_le, hs.stack_le⟩⟩
  | jumpOffset =>
      obtain rfl := Except.ok.inj h
      exact hs.goto (wrapAddress_le _)
  | skipIfByte | skipUnlessByte | skipIfEqual | skipUnlessEqual | skipIfHeld | skipUnlessHeld =>
      obtain rfl := Except.ok.inj h
      exact hs.skipIf _
  | setByte | addByte | copy | or | and | xor | random | readDelay =>
      obtain rfl := Except.ok.inj h
      exact hs.setV _ _
  | add | subtract | shiftRight | subtractFrom | shiftLeft =>
      obtain rfl := Except.ok.inj h
      exact hs.setFlagged _ _ _
  | setIndex | addIndex | pointGlyph | setDelay | setSound | storeRegisters | loadRegisters =>
      obtain rfl := Except.ok.inj h
      exact hs.of_eq rfl rfl rfl
  | draw =>
      obtain rfl := Except.ok.inj h
      exact (hs.paint (Drawing.Binary.draw hs.display_le _ _ _ _ _)).setV _ _
  | awaitKey =>
      rw [act] at h
      split at h
      · obtain rfl := Except.ok.inj h
        exact hs.setV _ _
      · obtain rfl := Except.ok.inj h
        exact hs.rewind
  | storeDecimal =>
      rw [act] at h
      split at h
      · obtain rfl := Except.ok.inj h
        exact hs.of_eq rfl rfl rfl
      · cases h

namespace State

variable {s t : State}

lemma Valid.obey (hs : s.Valid) {w : Word} {input : Input} (h : s.obey w input = .ok t) :
    t.Valid := by
  rw [State.obey] at h
  split at h
  · exact Instruction.act_valid hs.advance h
  · cases h

/-- **A cycle keeps a state valid.** -/
theorem Valid.cycle (hs : s.Valid) {input : Input} (h : s.cycle input = .ok t) : t.Valid :=
  hs.obey h

end State

end ChipVm
