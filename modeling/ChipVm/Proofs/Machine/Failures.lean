import ChipVm.Machine
import ChipVm.Proofs.Instruction.Table

/-!
# What fails, and what is left after a failure

A cycle can fail in two ways only.  Its word may stand for no instruction, and it may be a return
with no call open; the fault then names the word, or the address of the return, although the program
counter has been moved past it by then.  The digits of a byte always exist, so nothing else fails.

A machine passes faults on.  Whatever it had begun is dropped with them, and the machine is the one
it was before.

* **`Instruction.execute_eq_error_iff`** — of the instructions only a return fails.
* **`State.cycle_eq_error_iff`** — when a cycle fails, and with which fault.
* **`Machine.failures_exact`** — the same, and that a failure leaves a machine as it was.
-/

namespace ChipVm

lemma exists_decimalDigits (b : UInt8) : ∃ digits, decimalDigits b.toNat = .ok digits := by
  have := b.toNat_lt
  rw [decimalDigits_isOk_iff]
  omega

/-- **Of the instructions only a return fails,** if no call is open. -/
theorem Instruction.execute_eq_error_iff {ins : Instruction} {w : Word} {input : Input} {s : State}
    {fault : Fault} : ins.execute w input s = .error fault ↔
      ins = .ret ∧ s.stack = [] ∧ fault = .emptyStack (wrapAddress s.pc) := by
  cases ins with
  | ret =>
      have hadvance : s.advance.stack = s.stack := rfl
      rw [execute, act, State.rewind_advance, hadvance]
      rcases s.stack with _ | ⟨a, outer⟩
      · simp [eq_comm]
      · simp
  | awaitKey =>
      rw [execute, act]
      split <;> simp
  | storeDecimal =>
      obtain ⟨digits, hdigits⟩ := exists_decimalDigits (s.advance.v.read w.x)
      simp [execute, act, hdigits]
  | _ => simp [execute, act]

namespace State

/-- **A cycle fails on a word that is no instruction and on a return without a call,** and on
nothing else. -/
theorem cycle_eq_error_iff {s : State} {input : Input} {fault : Fault} :
    s.cycle input = .error fault ↔
      (∀ ins : Instruction, ¬ ins.pattern.Fits s.fetch) ∧ fault = .illegalWord s.fetch ∨
        s.fetch = 0x00EE ∧ s.stack = [] ∧ fault = .emptyStack (wrapAddress s.pc) := by
  rw [cycle]
  by_cases hrow : ∃ ins : Instruction, ins.pattern.Fits s.fetch
  · obtain ⟨ins, hfits⟩ := hrow
    have hret : ins = .ret ↔ s.fetch = 0x00EE := by
      rw [← Instruction.fits_ret]
      exact ⟨fun h => h ▸ hfits, Instruction.eq_of_fits hfits⟩
    have hsome : ¬ ∀ ins : Instruction, ¬ ins.pattern.Fits s.fetch := fun h => h ins hfits
    rw [obey_of_fits hfits, Instruction.execute_eq_error_iff, hret]
    simp only [hsome, false_and, false_or]
  · have hnone := not_exists.mp hrow
    have hret : s.fetch ≠ 0x00EE := fun h => hnone .ret (Instruction.fits_ret.mpr h)
    simp [obey_of_forall_not_fits hnone, hnone, hret, eq_comm]

/-- In particular, the digits of a register never run out of range. -/
lemma cycle_ne_decimalOutOfRange (s : State) (input : Input) (value : Int) :
    s.cycle input ≠ .error (.decimalOutOfRange value) := by
  intro h
  rcases cycle_eq_error_iff.mp h with ⟨-, hfault⟩ | ⟨-, -, hfault⟩ <;> cases hfault

end State

namespace Machine

/-- Whatever is logged, a machine takes over the state that its cycle leads to, or stays as it is
and passes the fault on. -/
lemma exists_advanceCpu_eq (m : Machine) (random : UInt8) (log : Log) :
    ∃ log', m.advanceCpu random log =
      match m.state.cycle ⟨m.keys, random⟩ with
      | .ok t => ⟨.ok (), { m with
          state := t, frameDue := m.frameDue || decide (t.display ≠ m.state.display) }, log'⟩
      | .error fault => ⟨.error fault, m, log'⟩ := by
  rw [advanceCpu, ← State.cycleTraced_fst m.state ⟨m.keys, random⟩ Tracer.forward log]
  rcases m.state.cycleTraced ⟨m.keys, random⟩ Tracer.forward log with ⟨fault | next, log'⟩
  · exact ⟨_, rfl⟩
  · exact ⟨log', rfl⟩

/-- **Failures are exact.**  A cycle fails on a word that fits no row of the table, and on a return
without a call, and with no other fault than these have.  A machine on which an instruction, a
program or a saved text fails is left as it was, in all its parts. -/
theorem failures_exact :
    (∀ (s : State) (input : Input) (fault : Fault), s.cycle input = .error fault ↔
      (∀ ins : Instruction, ¬ ins.pattern.Fits s.fetch) ∧ fault = .illegalWord s.fetch ∨
        s.fetch = 0x00EE ∧ s.stack = [] ∧ fault = .emptyStack (wrapAddress s.pc)) ∧
    (∀ (s : State) (input : Input) (value : Int),
      s.cycle input ≠ .error (.decimalOutOfRange value)) ∧
    ∀ (m : Machine) (log : Log) (fault : Fault),
      (∀ random, (m.advanceCpu random log).answer = .error fault →
        (m.advanceCpu random log).machine = m) ∧
      (∀ rom, (m.loadRom rom log).answer = .error fault → (m.loadRom rom log).machine = m) ∧
      ∀ text, (m.restore text log).answer = .error fault → (m.restore text log).machine = m := by
  refine ⟨fun s input fault => State.cycle_eq_error_iff, State.cycle_ne_decimalOutOfRange,
    fun m log fault => ⟨fun random h => ?_, fun rom h => ?_, fun text h => ?_⟩⟩
  · exact advanceCpu_of_error h
  · exact loadRom_of_error h
  · exact restore_of_error h

end Machine

end ChipVm
