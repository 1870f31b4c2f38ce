import ChipVm.Proofs.Execution.Tracing
import ChipVm.Proofs.Machine.Restart

/-!
# Driving the processor

The processor can be driven cycle by cycle, with or without a tracer, and as part of a machine.  All
of these go through the same states and stop at the same cycle with the same fault.

A machine adds the keys.  It keeps them between cycles, and a cycle is shown those that are down at
this moment: a key is down if it was pressed after it was last released and after the last program
was started.

* `Machine.settles?` — what an operation makes of a key.
* `Machine.isDown_performAll` — which keys are down after a history.
* **`Machine.driving_agrees`** — a tracer changes nothing and is told what is executed, and a
  machine does what a cycle does.
-/

namespace ChipVm

namespace Keypad

lemma isDown_press (keys : Keypad) (b : UInt8) (k : Fin keyCount) :
    (keys.press b).isDown k = if keyOf b = k then true else keys.isDown k := by
  simp [isDown, press, Vector.getElem_set, Fin.ext_iff]

lemma isDown_release (keys : Keypad) (b : UInt8) (k : Fin keyCount) :
    (keys.release b).isDown k = if keyOf b = k then false else keys.isDown k := by
  simp [isDown, release, Vector.getElem_set, Fin.ext_iff]

lemma isDown_released (k : Fin keyCount) : released.isDown k = false := by
  simp [isDown, released]

end Keypad

namespace Machine

variable {m : Machine} {log : Log}

/-! ## Which keys are down -/

/-- Whether a key is down after an operation, if the operation decides about it. -/
def settles? (k : Fin keyCount) : Operation × Except Fault Reply → Option Bool
  | (.press key, _) => if keyOf key = k then some true else none
  | (.release key, _) => if keyOf key = k then some false else none
  | (.loadRom _, .ok _) | (.reset, .ok _) => some false
  | _ => none

/-- No key is down when a program has been started. -/
lemma isDown_loadRom (m : Machine) (rom : List UInt8) (log : Log) (k : Fin keyCount) :
    (m.loadRom rom log).machine.keys.isDown k =
      match (m.loadRom rom log).answer with
      | .ok () => false
      | .error _ => m.keys.isDown k := by
  rcases Nat.lt_or_ge maxRomSize rom.length with hlarge | hfits
  · rw [loadRom_of_lt hlarge]
  · rw [loadRom_of_le hfits]
    exact Keypad.isDown_released k

lemma isDown_perform (m : Machine) (log : Log) (op : Operation) (k : Fin keyCount) :
    (m.perform log op).machine.keys.isDown k =
      (settles? k (op, (m.perform log op).answer)).getD (m.keys.isDown k) := by
  cases op with
  | loadRom rom =>
      rw [perform, Outcome.reply, isDown_loadRom]
      rcases (m.loadRom rom log).answer with fault | ⟨⟩ <;> rfl
  | reset =>
      rw [perform, Outcome.reply, reset, isDown_loadRom]
      rcases (loadRom { m with rom := [] } m.rom log).answer with fault | ⟨⟩ <;> rfl
  | press key =>
      refine (m.keys.isDown_press key k).trans ?_
      rw [settles?]
      split_ifs <;> rfl
  | release key =>
      refine (m.keys.isDown_release key k).trans ?_
      rw [settles?]
      split_ifs <;> rfl
  | advanceCpu random =>
      obtain ⟨_, hcpu⟩ := m.exists_advanceCpu_eq random log
      rw [perform, hcpu]
      rcases m.state.cycle ⟨m.keys, random⟩ with fault | next <;> rfl
  | advanceTimers =>
      rw [perform, advanceTimers]
      split_ifs <;> rfl
  | takeFrame =>
      rw [perform, takeFrame]
      split_ifs <;> rfl
  | restore text =>
      rw [perform, restore]
      rcases State.restore text with fault | s <;> rfl
  | save => rfl

/-- A key is down as the last operation that decided about it has left it. -/
lemma isDown_performAll (m : Machine) (log : Log) (ops : List Operation) (k : Fin keyCount) :
    (m.performAll log ops).1.keys.isDown k =
      latest (settles? k) (m.keys.isDown k) (m.answers log ops) := by
  induction ops generalizing m log with
  | nil => rfl
  | cons op ops ih => rw [performAll_cons, ih, isDown_perform, answers, latest_cons]

/-! ## One cycle of a machine -/

/-- **A machine does what a cycle does** with the keys that are down. -/
lemma advanceCpu_refines (m : Machine) (random : UInt8) (log : Log) :
    let done := m.perform log (.advanceCpu random)
    (done.answer.map fun _ => done.machine.state) = m.state.cycle ⟨m.keys, random⟩ ∧
      ∀ fault, done.answer = .error fault → done.machine.state = m.state := by
  obtain ⟨_, hcpu⟩ := m.exists_advanceCpu_eq random log
  rw [perform, hcpu]
  rcases m.state.cycle ⟨m.keys, random⟩ with fault | next
  · exact ⟨rfl, fun _ _ => rfl⟩
  · refine ⟨rfl, ?_⟩
    rintro fault ⟨⟩

/-- **All ways of driving the processor agree.**  No tracer changes the states of a run or its
fault.  The lines that are kept of a run are those of the instructions that were fetched, in order,
and each begins with the digits of its word and the mnemonic; every word that was fetched is an
instruction, but for a last one that was refused.  And after any history a machine takes over the
state that a cycle with the keys that are down leads to, or keeps its own if the cycle fails. -/
theorem driving_agrees :
    (∀ {σ : Type} (t : Tracer σ) (gathered : σ) (s : State) (inputs : List Input),
      (s.runTraced t gathered inputs).1 = s.run inputs) ∧
    (∀ (s : State) (inputs : List Input) (kept : Array String), ∃ lines : List String,
      (s.runTraced Tracer.keep kept inputs).2 = kept ++ lines.toArray ∧
        List.Forall₂ Word.Announces ((s.fetched inputs).filter Word.isInstruction) lines ∧
        s.fetched inputs =
          (s.fetched inputs).filter Word.isInstruction ++ (s.run inputs).refused?.toList) ∧
    ∀ (log log' : Log) (ops : List Operation) (random : UInt8),
      let m := (fresh.performAll log ops).1
      let done := m.perform log' (.advanceCpu random)
      (done.answer.map fun _ => done.machine.state) = m.state.cycle ⟨m.keys, random⟩ ∧
        (∀ fault, done.answer = .error fault → done.machine.state = m.state) ∧
        ∀ k, m.keys.isDown k = latest (settles? k) false (fresh.answers log ops) := by
  refine ⟨fun t gathered s inputs => s.runTraced_fst t gathered inputs,
    fun s inputs kept => ?_, fun log log' ops random => ?_⟩
  · obtain ⟨lines, hkept, hlines⟩ := s.exists_lines_of_run inputs kept
    exact ⟨lines, hkept, hlines, s.fetched_eq inputs⟩
  · obtain ⟨hstate, hfault⟩ := advanceCpu_refines (fresh.performAll log ops).1 random log'
    refine ⟨hstate, hfault, fun k => ?_⟩
    rw [isDown_performAll]
    exact congrArg (fun down => latest _ down _) (Keypad.isDown_released k)

/-- A program that waits for a key and puts its number into a register, with key 5 down.  The
instruction is given this key, and what comes after the program is refused. -/
theorem driving_agrees_with_key :
    let ops := [.loadRom [0xF1, 0x0A], .press 5]
    let m := (fresh.performAll Log.silent ops).1
    let m' := (fresh.performAll Log.silent (ops ++ [.advanceCpu 0])).1
    let received := m.perform Log.silent (.advanceCpu 0)
    let refused := m'.perform Log.silent (.advanceCpu 0)
    m.keys.isDown (keyOf 5) = true ∧
      (received.answer.map fun _ => received.machine.state.v.read 1) = .ok 5 ∧
      refused.answer = .error (.illegalWord 0x0000) ∧ refused.machine.state = m'.state := by
  intro ops m m' received refused
  obtain ⟨hreceived, -, hkeys⟩ := driving_agrees.2.2 Log.silent Log.silent ops 0
  obtain ⟨hrefused, hkept, -⟩ :=
    driving_agrees.2.2 Log.silent Log.silent (ops ++ [.advanceCpu 0]) 0
  have hanswer : refused.answer = .error (.illegalWord 0x0000) := by
    have hcycle : m'.state.cycle ⟨m'.keys, 0⟩ = .error (.illegalWord 0x0000) := by decide +kernel
    rw [hcycle] at hrefused
    rcases hcase : refused.answer with fault | reply
    · rw [hcase] at hrefused
      exact congrArg Except.error (Except.error.inj hrefused)
    · rw [hcase] at hrefused
      cases hrefused
  refine ⟨(hkeys (keyOf 5)).trans (by decide +kernel), ?_, hanswer, hkept _ hanswer⟩
  calc (received.answer.map fun _ => received.machine.state.v.read 1)
      = (received.answer.map fun _ => received.machine.state).map (·.v.read 1) := by
        rcases received.answer with fault | reply <;> rfl
    _ = (m.state.cycle ⟨m.keys, 0⟩).map (·.v.read 1) := by rw [hreceived]
    _ = .ok 5 := by decide +kernel

end Machine

end ChipVm
