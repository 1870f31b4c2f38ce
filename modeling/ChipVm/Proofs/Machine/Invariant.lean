import ChipVm.Machine.Operation
import ChipVm.Proofs.Execution.Validity
import ChipVm.Proofs.SaveFile.RoundTrip

/-!
# What every history leaves true

A machine is sound if its state is valid, its prescaler waits for less than a whole turn, and its
program fits into memory.  A fresh machine is sound, and every operation keeps a machine sound,
whether it succeeds or fails and whatever text, program or random byte it is given: a program starts
in a fresh state, an instruction keeps a state valid, and a text is validated before its state is
put in place of the current one.

Soundness is more than a bound for its own sake.  A valid state is exactly one that can be saved and
restored, so that no history leads to a machine whose save is refused.

* **`Sound.perform`** — one operation; **`Sound.performAll`** — a history of them.
* **`history_sound_and_restorable`** — the bounds after any history, and that its save restores.
-/

namespace ChipVm

namespace Machine

/-- The bounds that a machine keeps. -/
structure Sound (m : Machine) : Prop where
  valid : m.state.Valid
  prescaler_lt : m.prescaler.toNat < cyclesPerTimerTick
  rom_le : m.rom.length ≤ maxRomSize

variable {m : Machine}

lemma sound_fresh : fresh.Sound where
  valid := State.fresh_valid
  prescaler_lt := by decide
  rom_le := by decide

/-! ## One operation -/

lemma loadRom_fresh_valid {s : State} {rom : List UInt8} (h : State.fresh.loadRom rom = .ok s) :
    s.Valid ∧ rom.length ≤ maxRomSize := by
  refine ⟨?_, (State.fresh.loadRom_isOk_iff rom).mp ⟨s, h⟩⟩
  rw [State.loadRom] at h
  split_ifs at h
  obtain rfl := Except.ok.inj h
  exact State.fresh_valid.of_eq rfl rfl rfl

lemma Sound.loadRom (h : m.Sound) (rom : List UInt8) (log : Log) :
    (m.loadRom rom log).machine.Sound := by
  rw [Machine.loadRom]
  split
  · rename_i s log' hload
    have hok : State.fresh.loadRom rom = .ok s := by
      rw [← State.loadRomLogged_fst State.fresh rom log, hload]
    obtain ⟨hvalid, hrom⟩ := loadRom_fresh_valid hok
    exact ⟨hvalid, sound_fresh.prescaler_lt, hrom⟩
  · exact h

/-- The program is out of the machine while it is loaded again. -/
lemma Sound.reset (h : m.Sound) (log : Log) : (m.reset log).machine.Sound := by
  have hempty : { m with rom := [] }.Sound := ⟨h.valid, h.prescaler_lt, Nat.zero_le _⟩
  exact hempty.loadRom m.rom log

lemma Sound.advanceCpu (h : m.Sound) (random : UInt8) (log : Log) :
    (m.advanceCpu random log).machine.Sound := by
  rw [Machine.advanceCpu]
  split
  · rename_i next log' hcycle
    have hok : m.state.cycle ⟨m.keys, random⟩ = .ok next := by
      rw [← State.cycleTraced_fst m.state ⟨m.keys, random⟩ Tracer.forward log, hcycle]
    exact ⟨h.valid.cycle hok, h.prescaler_lt, h.rom_le⟩
  · exact h

lemma Sound.advanceTimers (h : m.Sound) : m.advanceTimers.Sound := by
  rw [Machine.advanceTimers]
  split_ifs with hzero
  · have hfull : (UInt8.ofNat (cyclesPerTimerTick - 1)).toNat < cyclesPerTimerTick := by decide
    exact ⟨h.valid.of_eq rfl rfl rfl, hfull, h.rom_le⟩
  · have hpos : m.prescaler.toNat ≠ 0 := fun h0 => hzero (UInt8.toNat_inj.mp h0)
    have hone : (1 : UInt8) ≤ m.prescaler := by
      rw [UInt8.le_iff_toNat_le]
      exact Nat.one_le_iff_ne_zero.mpr hpos
    refine ⟨h.valid, ?_, h.rom_le⟩
    show (m.prescaler - 1).toNat < cyclesPerTimerTick
    rw [UInt8.toNat_sub_of_le _ _ hone]
    exact Nat.lt_of_le_of_lt (Nat.sub_le _ _) h.prescaler_lt

lemma Sound.takeFrame (h : m.Sound) : m.takeFrame.2.Sound := by
  rw [Machine.takeFrame]
  split_ifs
  · exact ⟨h.valid, h.prescaler_lt, h.rom_le⟩
  · exact h

lemma Sound.restore (h : m.Sound) (text : String) (log : Log) :
    (m.restore text log).machine.Sound := by
  rw [Machine.restore]
  split
  · rename_i s hs
    exact ⟨State.restore_valid hs, h.prescaler_lt, h.rom_le⟩
  · exact h

/-- **Every operation keeps a machine sound,** whether it succeeds or fails. -/
theorem Sound.perform (h : m.Sound) (log : Log) (op : Operation) :
    (m.perform log op).machine.Sound := by
  cases op with
  | loadRom rom => exact h.loadRom rom log
  | reset => exact h.reset log
  | press | release => exact ⟨h.valid, h.prescaler_lt, h.rom_le⟩
  | advanceCpu random => exact h.advanceCpu random log
  | advanceTimers => exact h.advanceTimers
  | takeFrame => exact h.takeFrame
  | save => exact h
  | restore text => exact h.restore text log

/-! ## Histories -/

/-- **Every history keeps a machine sound.** -/
theorem Sound.performAll (h : m.Sound) (log : Log) (ops : List Operation) :
    (m.performAll log ops).1.Sound := by
  induction ops generalizing m log with
  | nil => exact h
  | cons op ops ih => exact ih (h.perform log op) _

lemma Reachable.sound (h : m.Reachable) : m.Sound := by
  obtain ⟨ops, log, rfl⟩ := h
  exact sound_fresh.performAll log ops

/-- A text that was saved from a valid state is restored to this state.  Of the rest of the machine,
no more changes than that the screen is due. -/
lemma restore_save_eq {s : State} (hs : s.Valid) (m : Machine) (log : Log) :
    m.restore s.save log = ⟨.ok (), { m with state := s, frameDue := true }, log⟩ := by
  have hrestore : State.restore s.save = .ok s := by
    rw [State.restore_save]
    exact State.validate_eq_ok_iff.mpr ⟨rfl, hs⟩
  rw [restore, hrestore]

/-- A machine restores its own save. -/
lemma restore_save_of_valid (h : m.state.Valid) (log : Log) :
    m.restore m.save log = ⟨.ok (), { m with frameDue := true }, log⟩ :=
  restore_save_eq h m log

/-- **After any history the machine keeps its bounds,** its state is accepted as it is, and saving
it and restoring the save leads back to the same state. -/
theorem history_sound_and_restorable (log : Log) (ops : List Operation) :
    let m := (fresh.performAll log ops).1
    ((∀ k, m.state.display.pixel k = 0 ∨ m.state.display.pixel k = 1) ∧ m.state.pc ≤ 0xFFF ∧
        (∀ a ∈ m.state.stack, a ≤ 0xFFF) ∧ m.prescaler.toNat < cyclesPerTimerTick ∧
        m.rom.length ≤ maxRomSize) ∧
      m.state.validate = .ok m.state ∧
      ∀ log', (m.restore m.save log').answer = .ok () ∧
        (m.restore m.save log').machine.state = m.state := by
  intro m
  have hsound : m.Sound := sound_fresh.performAll log ops
  refine ⟨⟨fun k => eq_zero_or_one_of_le (hsound.valid.display_le k), hsound.valid.pc_le,
    hsound.valid.stack_le, hsound.prescaler_lt, hsound.rom_le⟩,
    State.validate_eq_ok_iff.mpr ⟨rfl, hsound.valid⟩, fun log' => ?_⟩
  rw [restore_save_of_valid hsound.valid]
  exact ⟨rfl, rfl⟩

end Machine

end ChipVm
