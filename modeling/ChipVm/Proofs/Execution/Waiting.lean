import ChipVm.Proofs.Execution.Trail
import Mathlib.Data.Fin.Tuple.Basic

/-!
# Waiting for a key

The instruction that waits for a key does so by being executed again and again.  The program counter
has been moved past it when it acts, and as long as no key is held it is moved back, which leads to
where it was even at the end of the address space, where both ways go around.  Nothing else is
touched, so that the state is a fixed point of the cycle, and a wait of any length leaves no trace.

The first cycle in which a key is held ends the wait.  The lowest of the keys goes into the register
and the program goes on, in the same state after a long wait as after none.

* `Input.Idle` — no key is held.
* `State.received` — the state after the instruction was given a key.
* `State.run_append_of_idle` — a wait in front of a run changes nothing in the run.
* **`State.waiting_leaves_no_trace`** — waits of any length, and how they end.
-/

namespace ChipVm

/-! ## Keys -/

/-- No key is held. -/
def Input.Idle (input : Input) : Prop := ∀ k, input.keys.isDown k = false

namespace Keypad

/-- The key that is reported is held, and no lower one is. -/
lemma lowest?_eq_some_iff {keys : Keypad} {k : Fin keyCount} :
    keys.lowest? = some k ↔ keys.isDown k = true ∧ ∀ j < k, keys.isDown j = false := by
  rw [lowest?, ← Fin.find?_eq_find?_finRange]
  exact Fin.find?_eq_some_iff

lemma exists_lowest? {keys : Keypad} {k : Fin keyCount} (hk : keys.isDown k = true) :
    ∃ j, keys.lowest? = some j := by
  rcases hlowest : keys.lowest? with _ | j
  · rw [(lowest?_eq_none_iff keys).mp hlowest k] at hk
    cases hk
  · exact ⟨j, rfl⟩

end Keypad

namespace State

variable {s : State} {input : Input} {idle : List Input}

/-! ## One cycle -/

/-- The state after the instruction that waits was given key `k`. -/
def received (s : State) (k : Fin keyCount) : State :=
  { s with v := s.v.write s.fetch.x (UInt8.ofNat k.val), pc := wrapAddress (s.pc + 2) }

/-- **While no key is held the cycle leads back to the same state.** -/
lemma cycle_of_idle (hpc : s.pc ≤ addressMask) (hw : Instruction.awaitKey.pattern.Fits s.fetch)
    (hidle : input.Idle) : s.cycle input = .ok s := by
  have hnone : input.keys.lowest? = none := (Keypad.lowest?_eq_none_iff _).mpr hidle
  rw [cycle, obey_of_fits hw, Instruction.execute, Instruction.act, hnone]
  exact congrArg Except.ok ((rewind_advance s).trans (by rw [wrapAddress_of_le hpc]))

/-- A key ends the wait. -/
lemma cycle_of_lowest? (hw : Instruction.awaitKey.pattern.Fits s.fetch) {k : Fin keyCount}
    (hk : input.keys.lowest? = some k) : s.cycle input = .ok (s.received k) := by
  rw [cycle, obey_of_fits hw, Instruction.execute, Instruction.act, hk]
  rfl

/-! ## Waits -/

/-- **A wait goes through the same state again and again.** -/
lemma run_of_idle (hpc : s.pc ≤ addressMask)
    (hw : Instruction.awaitKey.pattern.Fits s.fetch) (hidle : ∀ input ∈ idle, input.Idle) :
    s.run idle = ⟨List.replicate idle.length s, none⟩ := by
  induction idle with
  | nil => rfl
  | cons input idle ih =>
      obtain ⟨hinput, hrest⟩ := List.forall_mem_cons.mp hidle
      rw [run_of_ok (cycle_of_idle hpc hw hinput), ih hrest]
      rfl

/-- **A wait in front of a run changes nothing in the run,** whatever its length is. -/
lemma run_append_of_idle (hpc : s.pc ≤ addressMask)
    (hw : Instruction.awaitKey.pattern.Fits s.fetch) (hidle : ∀ input ∈ idle, input.Idle)
    (later : List Input) :
    s.run (idle ++ later) =
      ⟨List.replicate idle.length s ++ (s.run later).states, (s.run later).fault⟩ := by
  have hwait := run_of_idle hpc hw hidle
  have hlast : (s.run idle).last s = s := by
    rw [hwait, Run.last, List.getLast?_replicate]
    split_ifs <;> rfl
  rw [run_append s idle later (by rw [hwait]), hlast, hwait]

/-- A state in front, once or many times, is where the run begins anyway. -/
lemma last_replicate_append (s : State) (n : Nat) (r : Run) :
    Run.last s ⟨List.replicate n s ++ r.states, r.fault⟩ = r.last s := by
  rw [Run.last, Run.last, List.getLast?_append, List.getLast?_replicate]
  rcases r.states.getLast? with _ | t
  · rw [Option.none_or]
    split_ifs <;> rfl
  · rfl

/-- **Waiting for a key leaves no trace.**  As long as no key is held, a program that waits for one
stays in the same state, all parts of it, wherever it waits.  In the first cycle in which keys are
held, the lowest of them goes into the register and the program goes on at the next word, with
nothing else changed.  Where a run ends, and with which fault, does not depend on how long the wait
was. -/
theorem waiting_leaves_no_trace (hpc : s.pc ≤ addressMask)
    (hw : Instruction.awaitKey.pattern.Fits s.fetch) (hidle : ∀ input ∈ idle, input.Idle) :
    ((s.run idle).states = List.replicate idle.length s ∧ (s.run idle).fault = none) ∧
      (∀ (input : Input) (later : List Input), ¬ input.Idle →
        ∃ k, input.keys.isDown k = true ∧ (∀ j < k, input.keys.isDown j = false) ∧
          (s.run (idle ++ input :: later)).states =
              List.replicate idle.length s ++
                s.received k :: ((s.received k).run later).states ∧
            (s.run (idle ++ input :: later)).fault = ((s.received k).run later).fault) ∧
      ∀ later : List Input, (s.run (idle ++ later)).last s = (s.run later).last s ∧
        (s.run (idle ++ later)).fault = (s.run later).fault := by
  have hrun := run_append_of_idle hpc hw hidle
  refine ⟨?_, fun input later hheld => ?_, fun later => ?_⟩
  · rw [run_of_idle hpc hw hidle]
    exact ⟨rfl, rfl⟩
  · obtain ⟨j, hj⟩ : ∃ j, input.keys.isDown j = true := by
      by_contra hnone
      exact hheld fun k => Bool.eq_false_iff.mpr fun hk => hnone ⟨k, hk⟩
    obtain ⟨k, hk⟩ := Keypad.exists_lowest? hj
    obtain ⟨hdown, hlowest⟩ := Keypad.lowest?_eq_some_iff.mp hk
    refine ⟨k, hdown, hlowest, ?_⟩
    rw [hrun, run_of_ok (cycle_of_lowest? hw hk)]
    exact ⟨rfl, rfl⟩
  · rw [hrun]
    exact ⟨last_replicate_append s idle.length (s.run later), rfl⟩

/-- A program at the very end of the address space, whose word goes on at the beginning.  It waits
for three cycles; then the keys `C` and `5` are held, and it receives `5`. -/
theorem waiting_leaves_no_trace_at_end :
    let s := { blank with memory := Memory.zero.store 0x0FFF [0xF3, 0x0A], pc := 0x0FFF }
    let idle : List Input := List.replicate 3 ⟨Keypad.released, 0⟩
    let input : Input := ⟨(Keypad.released.press 0xC).press 0x5, 0⟩
    s.pc ≤ addressMask ∧ Instruction.awaitKey.pattern.Fits s.fetch ∧
      (∀ input ∈ idle, input.Idle) ∧ (s.run idle).states = [s, s, s] ∧
      (s.run (idle ++ [input])).states =
        [s, s, s, { s with v := s.v.write 3 5, pc := 0x0001 }] := by
  intro s idle input
  have hpc : s.pc ≤ addressMask := by decide
  have hw : Instruction.awaitKey.pattern.Fits s.fetch :=
    Instruction.fits_of_ofWord? (by decide +kernel)
  have hidle : ∀ input ∈ idle, input.Idle := by
    intro input hinput
    rw [List.eq_of_mem_replicate hinput]
    exact fun k => by simp [Keypad.isDown, Keypad.released]
  have hfive : input.keys.lowest? = some (keyOf 5) := by decide
  obtain ⟨hdown, -⟩ := Keypad.lowest?_eq_some_iff.mp hfive
  have hheld : ¬ input.Idle := fun h => Bool.eq_false_iff.mp (h _) hdown
  obtain ⟨⟨hwait, -⟩, hkey, -⟩ := waiting_leaves_no_trace hpc hw hidle
  obtain ⟨k, hk, hlowest, hstates, -⟩ := hkey input [] hheld
  obtain rfl : keyOf 5 = k :=
    Option.some.inj (hfive.symm.trans (Keypad.lowest?_eq_some_iff.mpr ⟨hk, hlowest⟩))
  have hreceived : s.received (keyOf 5) = { s with v := s.v.write 3 5, pc := 0x0001 } := by
    have hx : s.fetch.x = 3 := by decide +kernel
    have hnext : wrapAddress (s.pc + 2) = 0x0001 := by decide
    rw [received, hx, hnext]
    rfl
  refine ⟨hpc, hw, hidle, hwait, ?_⟩
  rw [hstates, hreceived]
  rfl

end State

end ChipVm
