import ChipVm.Run
import Mathlib.Data.List.Forall2

/-!
# The address space has twelve bits

An address register has sixteen bits, and so has the program counter, but only the lower twelve of
them can ever be noticed.  Two runs show it: they begin in states that differ in the upper bits of
the two alone, they are given the same keys and random bytes, and they go through the same states or
stop with the same fault at the same cycle.

After one cycle the program counters are equal, since moving on wraps them.  The address registers
may stay apart: adding to one keeps the difference, and setting one removes it.  So `Congruent` is
what a run needs at its start, and `Alike` what each cycle leaves behind.

* `Congruent`, `Alike` — states that differ in upper bits only.
* **`Instruction.act_alike`** — no instruction tells such states apart, and no cycle does
  (`Congruent.cycle`).
* **`run_congruent`** — nor does any run.
-/

namespace ChipVm

/-! ## Cells -/

lemma cell_eq_iff (a b : UInt16) : cell a = cell b ↔ a.toNat % memorySize = b.toNat % memorySize :=
  Fin.ext_iff

lemma cell_add {a b : UInt16} (h : cell a = cell b) (k : UInt16) : cell (a + k) = cell (b + k) := by
  rw [cell_eq_iff, memorySize] at h ⊢
  rw [UInt16.toNat_add, UInt16.toNat_add]
  omega

lemma wrapAddress_congr {a b : UInt16} (h : cell a = cell b) : wrapAddress a = wrapAddress b := by
  rw [cell_eq_iff] at h
  apply UInt16.toNat_inj.mp
  rw [wrapAddress_toNat, wrapAddress_toNat]
  exact h

namespace Memory

lemma read_congr (m : Memory) {a b : UInt16} (h : cell a = cell b) : m.read a = m.read b := by
  simp only [read, h]

lemma store_congr (m : Memory) {a b : UInt16} (h : cell a = cell b) (bytes : List UInt8) :
    m.store a bytes = m.store b bytes := by
  induction bytes generalizing m a b with
  | nil => rfl
  | cons byte bytes ih =>
      have hwrite : m.write a byte = m.write b byte := by simp only [write, h]
      rw [store_cons, store_cons, hwrite]
      exact ih (m.write b byte) (cell_add h 1)

end Memory

lemma Sprite.draw_congr (memory : Memory) {i j : UInt16} (h : cell i = cell j) (x y : UInt8)
    (height : Nat) (display : Display) :
    draw memory i x y height display = draw memory j x y height display := by
  have hrow : ∀ k : Nat, memory.read (i + UInt16.ofNat k) = memory.read (j + UInt16.ofNat k) :=
    fun k => memory.read_congr (cell_add h _)
  simp only [draw, hrow]

/-! ## States that differ in upper bits -/

namespace State

/-- All is equal except that the address register and the program counter are so only modulo the
size of memory. -/
structure Congruent (s t : State) : Prop where
  memory : s.memory = t.memory
  v : s.v = t.v
  stack : s.stack = t.stack
  display : s.display = t.display
  delayTimer : s.delayTimer = t.delayTimer
  soundTimer : s.soundTimer = t.soundTimer
  i_mod : s.i.toNat % memorySize = t.i.toNat % memorySize
  pc_mod : s.pc.toNat % memorySize = t.pc.toNat % memorySize

/-- All is equal except that the address register is so only modulo the size of memory. -/
structure Alike (s t : State) : Prop extends Congruent s t where
  pc : s.pc = t.pc

/-- Two results are alike if they are alike states or the same fault. -/
inductive ResultsAlike : Except Fault State → Except Fault State → Prop
  | ok {s t : State} (h : Alike s t) : ResultsAlike (.ok s) (.ok t)
  | error (fault : Fault) : ResultsAlike (.error fault) (.error fault)

variable {s t : State}

lemma alike_with_index (s : State) {j : UInt16} (h : cell s.i = cell j) :
    s.Alike { s with i := j } :=
  ⟨⟨rfl, rfl, rfl, rfl, rfl, rfl, (cell_eq_iff _ _).mp h, rfl⟩, rfl⟩

lemma Alike.exists_index (h : s.Alike t) : ∃ j, cell s.i = cell j ∧ t = { s with i := j } := by
  obtain ⟨⟨hmemory, hv, hstack, hdisplay, hdelay, hsound, hi, _⟩, hpc⟩ := h
  refine ⟨t.i, (cell_eq_iff _ _).mpr hi, ?_⟩
  rw [hmemory, hv, hstack, hdisplay, hdelay, hsound, hpc]

lemma Congruent.advance (h : s.Congruent t) : s.advance.Alike t.advance := by
  have hpc : wrapAddress (s.pc + 2) = wrapAddress (t.pc + 2) :=
    wrapAddress_congr (cell_add ((cell_eq_iff _ _).mpr h.pc_mod) 2)
  refine ⟨⟨h.memory, h.v, h.stack, h.display, h.delayTimer, h.soundTimer, h.i_mod, ?_⟩, hpc⟩
  exact congrArg (fun pc : UInt16 => pc.toNat % memorySize) hpc

lemma Congruent.fetch (h : s.Congruent t) : s.fetch = t.fetch := by
  have hcell : cell s.pc = cell t.pc := (cell_eq_iff _ _).mpr h.pc_mod
  rw [State.fetch, State.fetch, wordAt, wordAt, read, read, read, read, h.memory,
    t.memory.read_congr hcell, t.memory.read_congr (cell_add hcell 1)]

lemma skipIf_alike (s : State) {j : UInt16} (h : cell s.i = cell j) (p : Prop) [Decidable p] :
    (s.skipIf p).Alike ({ s with i := j }.skipIf p) := by
  rw [skipIf, skipIf]
  split_ifs
  · exact alike_with_index s.advance h
  · exact alike_with_index s h

end State

/-! ## No instruction tells them apart -/

open State

/-- **No instruction tells alike states apart.** -/
theorem Instruction.act_alike {s t : State} (h : s.Alike t) (ins : Instruction) (w : Word)
    (input : Input) : ResultsAlike (ins.act w input s) (ins.act w input t) := by
  obtain ⟨j, hj, rfl⟩ := h.exists_index
  cases ins with
  | ret =>
      rw [act, act]
      rcases hstack : s.stack with _ | ⟨a, outer⟩
      · exact .error _
      · exact .ok (alike_with_index { s with pc := a, stack := outer } hj)
  | skipIfByte | skipUnlessByte | skipIfEqual | skipUnlessEqual | skipIfHeld | skipUnlessHeld =>
      exact .ok (s.skipIf_alike hj _)
  | setIndex | pointGlyph => exact .ok (alike_with_index _ rfl)
  | addIndex => exact .ok (alike_with_index _ (cell_add hj _))
  | draw =>
      rw [act, act]
      simp only [← Sprite.draw_congr s.memory hj]
      exact .ok (alike_with_index _ hj)
  | awaitKey =>
      rw [act, act]
      split
      · exact .ok (alike_with_index _ hj)
      · exact .ok (alike_with_index s.rewind hj)
  | storeDecimal =>
      rw [act, act]
      simp only [← s.memory.store_congr hj]
      split
      · exact .ok (alike_with_index _ hj)
      · exact .error _
  | storeRegisters =>
      rw [act, act]
      simp only [← s.memory.store_congr hj]
      exact .ok (alike_with_index _ hj)
  | loadRegisters =>
      have hread : ∀ k : UInt16, s.memory.read (s.i + k) = s.memory.read (j + k) :=
        fun k => s.memory.read_congr (cell_add hj k)
      rw [act, act]
      simp only [State.read, hread]
      exact .ok (alike_with_index _ hj)
  | clear | jump | call | setByte | addByte | copy | or | and | xor | add | subtract | shiftRight
  | subtractFrom | shiftLeft | jumpOffset | random | readDelay | setDelay | setSound =>
      exact .ok (alike_with_index _ hj)

namespace State

variable {s t : State}

/-- **No cycle tells congruent states apart.** -/
theorem Congruent.cycle (h : s.Congruent t) (input : Input) :
    ResultsAlike (s.cycle input) (t.cycle input) := by
  rw [State.cycle, State.cycle, h.fetch, obey, obey]
  split
  · exact Instruction.act_alike h.advance _ _ input
  · exact .error _

/-- **No run tells congruent states apart.**  Both runs stop with the same fault at the same cycle
or do not stop early, and after each cycle the two states differ at most in the upper bits of the
address register. -/
theorem run_congruent (h : s.Congruent t) (inputs : List Input) :
    (s.run inputs).fault = (t.run inputs).fault ∧
      List.Forall₂ Alike (s.run inputs).states (t.run inputs).states := by
  induction inputs generalizing s t with
  | nil => exact ⟨rfl, .nil⟩
  | cons input inputs ih =>
      have hcycle := h.cycle input
      rw [run, run]
      generalize s.cycle input = first at hcycle ⊢
      generalize t.cycle input = second at hcycle ⊢
      cases hcycle with
      | ok hnext =>
          obtain ⟨hfault, hstates⟩ := ih hnext.toCongruent
          exact ⟨hfault, .cons hnext hstates⟩
      | error fault => exact ⟨rfl, .nil⟩

/-- A program that adds 32 to the address register, stores three digits there and jumps back,
started once in the address space and once above it.  In both runs the first sum leaves the address
space, so that the digits are stored at its beginning. -/
theorem run_congruent_above :
    let program := [0xF0, 0x1E, 0xF0, 0x33, 0x12, 0x00]
    let s := { blank with
      memory := Memory.zero.store programStart program
      v := Registers.zero.write 0 32
      i := 0x0FF0 }
    let t := { s with i := 0x3FF0, pc := 0x1200 }
    let inputs := List.replicate 6 ⟨Keypad.released, 0⟩
    s.Congruent t ∧ (t.run inputs).fault = none ∧
      List.Forall₂ Alike (s.run inputs).states (t.run inputs).states ∧
      ((s.run inputs).last s).i = 0x1030 ∧ ((s.run inputs).last s).read 0x0011 = 3 := by
  intro program s t inputs
  have hi : (0x0FF0 : UInt16).toNat % memorySize = (0x3FF0 : UInt16).toNat % memorySize := by
    decide
  have hpc : programStart.toNat % memorySize = (0x1200 : UInt16).toNat % memorySize := by decide
  have h : s.Congruent t := ⟨rfl, rfl, rfl, rfl, rfl, rfl, hi, hpc⟩
  obtain ⟨hfault, hstates⟩ := run_congruent h inputs
  have hnone : (s.run inputs).fault = none := by decide +kernel
  exact ⟨h, hfault.symm.trans hnone, hstates, by decide +kernel, by decide +kernel⟩

end State

end ChipVm
