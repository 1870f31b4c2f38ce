import ChipVm.Proofs.Latest
import ChipVm.Proofs.Machine.Invariant

/-!
# Starting over

A machine that is reset has forgotten everything but its program.  It is the machine that a fresh
one becomes by taking this program in, and the program is the one that was taken in last: a program
that was refused, a state that was restored and code that was overwritten in memory have left no
trace in it.

The program is out of the machine while it is loaded again, so that a reset which failed would lose
it.  It cannot fail, because only programs that fit are ever kept: this is the bound on the program
that `Machine.Sound` carries through every history.

* `Machine.answers`, `Machine.lastProgram` — the answers of a history, and the program that it took
  in last.
* `Machine.rom_performAll` — this is the program that the machine keeps.
* **`Machine.reset_forgets_history`** — what a reset leads to after any history.
-/

namespace ChipVm

namespace Machine

variable {m : Machine}

/-! ## The program that was taken in last -/

/-- The operations of a history with the answers they get, in order. -/
def answers (m : Machine) (log : Log) : List Operation → List (Operation × Except Fault Reply)
  | [] => []
  | op :: ops =>
      let done := m.perform log op
      (op, done.answer) :: done.machine.answers done.log ops

/-- The program that was taken in, if this is what was asked for and granted. -/
def accepted? : Operation × Except Fault Reply → Option (List UInt8)
  | (.loadRom rom, .ok _) => some rom
  | _ => none

/-- The program that was taken in last, or the empty one if none was. -/
def lastProgram (history : List (Operation × Except Fault Reply)) : List UInt8 :=
  latest accepted? [] history

/-! ## Taking a program in -/

/-- The machine in which a program has just been started. -/
def started (rom : List UInt8) : Machine where
  state := { State.fresh with memory := State.fresh.memory.store programStart rom }
  rom := rom
  keys := Keypad.released
  prescaler := 0
  frameDue := true

/-- The log after a program was taken in. -/
def startedLog (rom : List UInt8) (log : Log) : Log :=
  log.write .debug s!"loaded {rom.length} byte ROM at {addressText programStart}"

/-- A program that fits is started, and the machine that takes it in does not matter. -/
lemma loadRom_of_le {rom : List UInt8} (hrom : rom.length ≤ maxRomSize) (m : Machine) (log : Log) :
    m.loadRom rom log = ⟨.ok (), started rom, startedLog rom log⟩ := by
  have hfits : ¬ maxRomSize < rom.length := Nat.not_lt.mpr hrom
  rw [loadRom, State.loadRomLogged, State.loadRom, if_neg hfits]
  rfl

lemma loadRom_of_lt {rom : List UInt8} (hrom : maxRomSize < rom.length) (m : Machine) (log : Log) :
    m.loadRom rom log = ⟨.error (.romTooLarge rom.length), m, log⟩ := by
  rw [loadRom, State.loadRomLogged, State.loadRom, if_pos hrom]

/-- **A reset takes the program of the machine in once more.** -/
lemma Sound.reset_eq (h : m.Sound) (log : Log) :
    m.reset log = ⟨.ok (), started m.rom, startedLog m.rom log⟩ :=
  loadRom_of_le h.rom_le { m with rom := [] } log

/-! ## What a machine keeps of its history -/

/-- Only a program that is taken in changes the program that a machine keeps. -/
lemma Sound.rom_perform (h : m.Sound) (log : Log) (op : Operation) :
    (m.perform log op).machine.rom = (accepted? (op, (m.perform log op).answer)).getD m.rom := by
  cases op with
  | loadRom rom =>
      rcases Nat.lt_or_ge maxRomSize rom.length with hlarge | hfits
      · rw [Machine.perform, loadRom_of_lt hlarge]
        rfl
      · rw [Machine.perform, loadRom_of_le hfits]
        rfl
  | reset =>
      rw [Machine.perform, h.reset_eq]
      rfl
  | advanceCpu random =>
      rw [Machine.perform, Outcome.reply, Machine.advanceCpu]
      split <;> rfl
  | advanceTimers =>
      rw [Machine.perform, Machine.advanceTimers]
      split_ifs <;> rfl
  | takeFrame =>
      rw [Machine.perform, Machine.takeFrame]
      split_ifs <;> rfl
  | restore text =>
      rw [Machine.perform, Outcome.reply, Machine.restore]
      split <;> rfl
  | press | release | save => rfl

/-- **A machine keeps the program that was taken in last.** -/
lemma Sound.rom_performAll (h : m.Sound) (log : Log) (ops : List Operation) :
    (m.performAll log ops).1.rom = latest accepted? m.rom (m.answers log ops) := by
  induction ops generalizing m log with
  | nil => rfl
  | cons op ops ih =>
      rw [performAll_cons, ih (h.perform log op), h.rom_perform, answers, latest_cons]

lemma rom_performAll_fresh (log : Log) (ops : List Operation) :
    (fresh.performAll log ops).1.rom = lastProgram (fresh.answers log ops) :=
  sound_fresh.rom_performAll log ops

/-- **A reset forgets the history.**  After any history of operations, failed ones among them, a
reset succeeds and leads to the machine that a fresh one becomes by taking in the program that was
taken in last.  The machine still has this program, and another reset leads to the same machine. -/
theorem reset_forgets_history (log : Log) (ops : List Operation) :
    let m := (fresh.performAll log ops).1
    let rom := lastProgram (fresh.answers log ops)
    m.rom = rom ∧
      ∀ log₁ log₂ : Log, (m.reset log₁).answer = .ok () ∧
        (fresh.loadRom rom log₂).answer = .ok () ∧
        (m.reset log₁).machine = (fresh.loadRom rom log₂).machine ∧
        (m.reset log₁).machine.rom = rom ∧
        ((m.reset log₁).machine.reset log₂).answer = .ok () ∧
        ((m.reset log₁).machine.reset log₂).machine = (m.reset log₁).machine := by
  intro m rom
  have hsound : m.Sound := sound_fresh.performAll log ops
  have hrom : m.rom = rom := rom_performAll_fresh log ops
  refine ⟨hrom, fun log₁ log₂ => ?_⟩
  have hfirst := hsound.reset_eq log₁
  have hfresh := loadRom_of_le hsound.rom_le fresh log₂
  -- The machine after the reset has the same program, so that a reset takes it in again.
  have hsecond : (m.reset log₁).machine.reset log₂ =
      ⟨.ok (), started m.rom, startedLog m.rom log₂⟩ := by
    have hstarted : (m.reset log₁).machine = started m.rom := by rw [hfirst]
    rw [(hsound.reset log₁).reset_eq, hstarted]
    rfl
  rw [hsecond, hfirst, ← hrom, hfresh]
  exact ⟨rfl, rfl, rfl, rfl, rfl, rfl⟩

end Machine

end ChipVm
