import ChipVm.Cycle
import Mathlib.Tactic.Common

/-!
# The table of instruction words

Which words stand for which instruction is written down here a second time, the way a reference card
has it: one row for each instruction, with the digits that are fixed and a gap for each digit that
belongs to an operand.  Reading a word is finding the row that it fits, and a word that fits no row
stands for nothing.

* `Pattern`, `Pattern.Fits` — the fixed digits of a row, and a word that has them.
* `Instruction.pattern` — the table.
* **`Instruction.ofWord?_eq_some_iff`** — a word stands for exactly the instruction whose row it
  fits; **`Instruction.ofWord?_eq_none_iff`** — it is refused exactly if it fits no row.
-/

namespace ChipVm

/-- The digits of a word that are fixed, from left to right.  `none` leaves a digit to the
operands. -/
structure Pattern where
  lead : Nat
  x : Option Nat
  y : Option Nat
  n : Option Nat

/-- The word has all digits that the pattern fixes. -/
@[mk_iff]
structure Pattern.Fits (p : Pattern) (w : Word) : Prop where
  lead : w.lead = p.lead
  x : ∀ d ∈ p.x, w.x.val = d
  y : ∀ d ∈ p.y, w.y.val = d
  n : ∀ d ∈ p.n, w.n = d

namespace Instruction

/-- The table: the fixed digits of the words of an instruction. -/
def pattern : Instruction → Pattern
  | clear => ⟨0x0, some 0x0, some 0xE, some 0x0⟩
  | ret => ⟨0x0, some 0x0, some 0xE, some 0xE⟩
  | jump => ⟨0x1, none, none, none⟩
  | call => ⟨0x2, none, none, none⟩
  | skipIfByte => ⟨0x3, none, none, none⟩
  | skipUnlessByte => ⟨0x4, none, none, none⟩
  | skipIfEqual => ⟨0x5, none, none, some 0x0⟩
  | setByte => ⟨0x6, none, none, none⟩
  | addByte => ⟨0x7, none, none, none⟩
  | copy => ⟨0x8, none, none, some 0x0⟩
  | or => ⟨0x8, none, none, some 0x1⟩
  | and => ⟨0x8, none, none, some 0x2⟩
  | xor => ⟨0x8, none, none, some 0x3⟩
  | add => ⟨0x8, none, none, some 0x4⟩
  | subtract => ⟨0x8, none, none, some 0x5⟩
  | shiftRight => ⟨0x8, none, none, some 0x6⟩
  | subtractFrom => ⟨0x8, none, none, some 0x7⟩
  | shiftLeft => ⟨0x8, none, none, some 0xE⟩
  | skipUnlessEqual => ⟨0x9, none, none, some 0x0⟩
  | setIndex => ⟨0xA, none, none, none⟩
  | jumpOffset => ⟨0xB, none, none, none⟩
  | random => ⟨0xC, none, none, none⟩
  | draw => ⟨0xD, none, none, none⟩
  | skipIfHeld => ⟨0xE, none, some 0x9, some 0xE⟩
  | skipUnlessHeld => ⟨0xE, none, some 0xA, some 0x1⟩
  | readDelay => ⟨0xF, none, some 0x0, some 0x7⟩
  | awaitKey => ⟨0xF, none, some 0x0, some 0xA⟩
  | setDelay => ⟨0xF, none, some 0x1, some 0x5⟩
  | setSound => ⟨0xF, none, some 0x1, some 0x8⟩
  | addIndex => ⟨0xF, none, some 0x1, some 0xE⟩
  | pointGlyph => ⟨0xF, none, some 0x2, some 0x9⟩
  | storeDecimal => ⟨0xF, none, some 0x3, some 0x3⟩
  | storeRegisters => ⟨0xF, none, some 0x5, some 0x5⟩
  | loadRegisters => ⟨0xF, none, some 0x6, some 0x5⟩

end Instruction

/-! ## Digits -/

namespace Word

/-- The lower byte is made of the third and the last digit. -/
lemma kk_eq_digits (w : Word) : w.kk = UInt8.ofNat (w.y.val * 16 + w.n) := by
  rw [← UInt8.toNat_inj, kk_toNat, UInt8.toNat_ofNat']
  simp only [y, n]
  omega

lemma kk_eq_iff (w : Word) (b : UInt8) :
    w.kk = b ↔ w.y.val = b.toNat / 16 ∧ w.n = b.toNat % 16 := by
  rw [← UInt8.toNat_inj, kk_toNat]
  simp only [y, n]
  have := b.toNat_lt
  omega

/-- A word is made of its four digits. -/
lemma eq_iff_digits (w u : Word) :
    w = u ↔ w.lead = u.lead ∧ w.x.val = u.x.val ∧ w.y.val = u.y.val ∧ w.n = u.n := by
  rw [← UInt16.toNat_inj]
  simp only [lead, x, y, n]
  have := w.toNat_lt
  have := u.toNat_lt
  omega

end Word

namespace Pattern

variable {w : Word} {d : Nat}

lemma fits_lead : Fits ⟨d, none, none, none⟩ w ↔ w.lead = d := by
  simp [fits_iff]

lemma fits_lead_n {e : Nat} : Fits ⟨d, none, none, some e⟩ w ↔ w.lead = d ∧ w.n = e := by
  simp [fits_iff]

lemma fits_lead_kk {b : UInt8} :
    Fits ⟨d, none, some (b.toNat / 16), some (b.toNat % 16)⟩ w ↔ w.lead = d ∧ w.kk = b := by
  simp [fits_iff, Word.kk_eq_iff]

lemma fits_word {u : Word} :
    Fits ⟨u.lead, some u.x.val, some u.y.val, some u.n⟩ w ↔ w = u := by
  simp [fits_iff, Word.eq_iff_digits]

end Pattern

/-! ## Reading a word is finding its row -/

namespace Instruction

variable {w : Word} {ins : Instruction}

lemma fits_clear : clear.pattern.Fits w ↔ w = 0x00E0 := Pattern.fits_word (u := 0x00E0)

lemma fits_ret : ret.pattern.Fits w ↔ w = 0x00EE := Pattern.fits_word (u := 0x00EE)

lemma fits_of_arithmetic? (hlead : w.lead = 0x8) (h : arithmetic? w.n = some ins) :
    ins.pattern.Fits w := by
  unfold arithmetic? at h
  split at h <;> cases h <;> exact Pattern.fits_lead_n.mpr ⟨hlead, ‹_›⟩

lemma fits_of_keys? (hlead : w.lead = 0xE) (h : keys? w.kk = some ins) :
    ins.pattern.Fits w := by
  unfold keys? at h
  split at h <;> cases h <;> exact Pattern.fits_lead_kk.mpr ⟨hlead, ‹_›⟩

lemma fits_of_transfer? (hlead : w.lead = 0xF) (h : transfer? w.kk = some ins) :
    ins.pattern.Fits w := by
  unfold transfer? at h
  split at h <;> cases h <;> exact Pattern.fits_lead_kk.mpr ⟨hlead, ‹_›⟩

lemma fits_of_ofWord? (h : ofWord? w = some ins) : ins.pattern.Fits w := by
  unfold ofWord? at h
  split at h
  case h_1 =>
    split_ifs at h with hclear hret
    · cases h
      exact fits_clear.mpr hclear
    · cases h
      exact fits_ret.mpr hret
  case h_6 hlead | h_10 hlead =>
    split_ifs at h with hn
    cases h
    exact Pattern.fits_lead_n.mpr ⟨hlead, hn⟩
  case h_9 hlead => exact fits_of_arithmetic? hlead h
  case h_15 hlead => exact fits_of_keys? hlead h
  case h_16 hlead => exact fits_of_transfer? hlead h
  case h_17 => cases h
  all_goals
    cases h
    exact Pattern.fits_lead.mpr ‹_›

lemma ofWord?_of_fits (h : ins.pattern.Fits w) : ofWord? w = some ins := by
  cases ins with
  | clear =>
      obtain rfl := fits_clear.mp h
      rfl
  | ret =>
      obtain rfl := fits_ret.mp h
      rfl
  | jump | call | skipIfByte | skipUnlessByte | setByte | addByte | setIndex | jumpOffset | random
  | draw =>
      have hlead := Pattern.fits_lead.mp h
      rw [ofWord?, hlead]
      rfl
  | skipIfEqual | skipUnlessEqual =>
      obtain ⟨hlead, hn⟩ := Pattern.fits_lead_n.mp h
      rw [ofWord?, hlead]
      exact if_pos hn
  | copy | or | and | xor | add | subtract | shiftRight | subtractFrom | shiftLeft =>
      obtain ⟨hlead, hn⟩ := Pattern.fits_lead_n.mp h
      rw [ofWord?, hlead, hn]
      rfl
  | skipIfHeld | skipUnlessHeld | readDelay | awaitKey | setDelay | setSound | addIndex
  | pointGlyph | storeDecimal | storeRegisters | loadRegisters =>
      rw [ofWord?, h.lead, w.kk_eq_digits, h.y _ rfl, h.n _ rfl]
      rfl

/-- **A word stands for exactly the instruction whose row it fits.** -/
theorem ofWord?_eq_some_iff : ofWord? w = some ins ↔ ins.pattern.Fits w :=
  ⟨fits_of_ofWord?, ofWord?_of_fits⟩

/-- No word fits two rows. -/
lemma eq_of_fits {a b : Instruction} (ha : a.pattern.Fits w) (hb : b.pattern.Fits w) : a = b :=
  Option.some.inj ((ofWord?_of_fits ha).symm.trans (ofWord?_of_fits hb))

/-- **A word is refused exactly if it fits no row.** -/
theorem ofWord?_eq_none_iff : ofWord? w = none ↔ ∀ ins : Instruction, ¬ ins.pattern.Fits w := by
  simp only [← ofWord?_eq_some_iff]
  exact Option.eq_none_iff_forall_ne_some

end Instruction

/-! ## Obeying a word -/

namespace State

variable {s t : State} {w : Word} {input : Input} {ins : Instruction}

/-- A word that fits a row is obeyed by executing the instruction of the row. -/
lemma obey_of_fits (h : ins.pattern.Fits w) : s.obey w input = ins.execute w input s := by
  rw [obey, Instruction.ofWord?_of_fits h]

/-- A word that fits no row is refused. -/
lemma obey_of_forall_not_fits (h : ∀ ins : Instruction, ¬ ins.pattern.Fits w) :
    s.obey w input = .error (.illegalWord w) := by
  rw [obey, Instruction.ofWord?_eq_none_iff.mpr h]

/-- What is obeyed is the instruction of some row. -/
lemma exists_execute_of_obey (h : s.obey w input = .ok t) :
    ∃ ins : Instruction, ins.pattern.Fits w ∧ ins.execute w input s = .ok t := by
  by_cases hrow : ∃ ins : Instruction, ins.pattern.Fits w
  · obtain ⟨ins, hfits⟩ := hrow
    exact ⟨ins, hfits, (obey_of_fits hfits).symm.trans h⟩
  · rw [obey_of_forall_not_fits (not_exists.mp hrow)] at h
    cases h

end State

end ChipVm
