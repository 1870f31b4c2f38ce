import ChipVm.Cycle
import ChipVm.SaveFile.Reader

/-!
# The machine

A machine looks after a state: it keeps the program so that it can be started over, it knows which
keys are held, it counts the timers down, and it remembers whether the screen has changed since
somebody last looked at it.

The timers run slower than the processor.  They are offered a tick after every instruction, but a
prescaler lets only one in eight through.

Whatever can fail leaves the machine as it was.  An `Outcome` holds the machine afterwards in
either case, so that this can be said and checked.

* `Machine`, `Machine.fresh` — a machine, and one without a program.
* `Machine.loadRom`, `Machine.reset` — a program is started, or started over.
* `Machine.advanceCpu`, `Machine.advanceTimers`, `Machine.tick` — time passes.
* `Machine.takeFrame` — the screen, if it has changed since it was last taken.
* `Machine.save`, `Machine.restore` — the state as text, and back.
* **`Machine.advanceCpu_of_error`** and its companions — a failure changes nothing.
* **`Machine.advanceTimers_of_waiting`** — the prescaler holds the timers for seven ticks in eight.
-/

namespace ChipVm

/-- A state with what is needed to run it. -/
structure Machine where
  /-- What the program sees and changes. -/
  state : State
  /-- The program that was loaded last. -/
  rom : List UInt8
  /-- The keys that are held. -/
  keys : Keypad
  /-- How many ticks the timers still have to wait. -/
  prescaler : UInt8
  /-- Whether the screen has changed since it was last taken. -/
  frameDue : Bool

/-- What comes of an operation: its answer or the fault, the machine afterwards, and the log. -/
structure Outcome (α : Type) where
  /-- The answer, or why there is none. -/
  answer : Except Fault α
  /-- The machine afterwards. -/
  machine : Machine
  /-- The log afterwards. -/
  log : Log

/-- One less, but not below zero. -/
def countDown (timer : UInt8) : UInt8 := if timer = 0 then 0 else timer - 1

namespace Machine

/-- A machine without a program. -/
def fresh : Machine where
  state := State.fresh
  rom := []
  keys := Keypad.released
  prescaler := 0
  frameDue := true

/-! ## Programs -/

/-- Starts a program in a fresh state, with no key held. -/
def loadRom (m : Machine) (rom : List UInt8) (log : Log) : Outcome Unit :=
  match State.fresh.loadRomLogged rom log with
  | (.ok s, log) =>
      { answer := .ok ()
        machine :=
          { state := s, rom := rom, keys := Keypad.released, prescaler := 0, frameDue := true }
        log := log }
  | (.error fault, log) => ⟨.error fault, m, log⟩

/-- Starts the program over.  The program is taken out of the machine and loaded again. -/
def reset (m : Machine) (log : Log) : Outcome Unit := loadRom { m with rom := [] } m.rom log

/-! ## Keys -/

/-- The key that a byte names goes down. -/
def press (m : Machine) (key : UInt8) : Machine := { m with keys := m.keys.press key }

/-- The key that a byte names comes up. -/
def release (m : Machine) (key : UInt8) : Machine := { m with keys := m.keys.release key }

/-! ## Time -/

/-- Executes one instruction, with `random` as the byte that the random instruction draws.  The
instruction is written to the log at level trace, and a failure at level error. -/
def advanceCpu (m : Machine) (random : UInt8) (log : Log) : Outcome Unit :=
  match m.state.cycleTraced ⟨m.keys, random⟩ Tracer.forward log with
  | (.ok next, log) =>
      { answer := .ok ()
        machine :=
          { m with
            state := next
            frameDue := m.frameDue || decide (next.display ≠ m.state.display) }
        log := log }
  | (.error fault, log) =>
      ⟨.error fault, m, log.write .error s!"{fault.message} at {addressText m.state.pc}"⟩

/-- Offers the timers a tick. -/
def advanceTimers (m : Machine) : Machine :=
  if m.prescaler = 0 then
    { m with
      prescaler := UInt8.ofNat (cyclesPerTimerTick - 1)
      state :=
        { m.state with
          delayTimer := countDown m.state.delayTimer
          soundTimer := countDown m.state.soundTimer } }
  else { m with prescaler := m.prescaler - 1 }

/-- Executes one instruction and, if that succeeds, offers the timers a tick. -/
def tick (m : Machine) (random : UInt8) (log : Log) : Outcome Unit :=
  let done := m.advanceCpu random log
  match done.answer with
  | .ok () => { done with machine := done.machine.advanceTimers }
  | .error _ => done

/-- The word that the next instruction is made of. -/
def nextWord (m : Machine) : Word := m.state.fetch

/-! ## The screen -/

/-- The screen, if it has changed since it was last taken. -/
def takeFrame (m : Machine) : Option Display × Machine :=
  if m.frameDue then (some m.state.display, { m with frameDue := false }) else (none, m)

/-! ## Saved states -/

/-- The state as text. -/
def save (m : Machine) : String := m.state.save

/-- Puts the state that a text describes in place of the current one. -/
def restore (m : Machine) (text : String) (log : Log) : Outcome Unit :=
  match State.restore text with
  | .ok s => ⟨.ok (), { m with state := s, frameDue := true }, log⟩
  | .error fault => ⟨.error fault, m, log⟩

/-! ## Failures change nothing -/

/-- A program that is refused leaves the machine as it was. -/
theorem loadRom_of_error {m : Machine} {rom : List UInt8} {log : Log} {fault : Fault}
    (h : (m.loadRom rom log).answer = .error fault) : (m.loadRom rom log).machine = m := by
  unfold loadRom at *
  split at h
  · cases h
  · simp

/-- **An instruction that fails leaves the machine as it was.** -/
theorem advanceCpu_of_error {m : Machine} {random : UInt8} {log : Log} {fault : Fault}
    (h : (m.advanceCpu random log).answer = .error fault) :
    (m.advanceCpu random log).machine = m := by
  unfold advanceCpu at *
  split at h
  · cases h
  · simp

/-- A text that is refused leaves the machine as it was. -/
theorem restore_of_error {m : Machine} {text : String} {log : Log} {fault : Fault}
    (h : (m.restore text log).answer = .error fault) : (m.restore text log).machine = m := by
  unfold restore at *
  split at h
  · cases h
  · simp

/-! ## Timers -/

@[simp] theorem countDown_toNat (timer : UInt8) : (countDown timer).toNat = timer.toNat - 1 := by
  unfold countDown
  split
  · rename_i h
    simp [h]
  · rename_i h
    have hpos : timer.toNat ≠ 0 := fun e => h (UInt8.toNat_inj.mp (by simpa using e))
    have := timer.toNat_lt
    rw [UInt8.toNat_sub_of_le _ _ (by rw [UInt8.le_iff_toNat_le]; simp; omega)]
    simp

/-- **A waiting prescaler holds the timers.** -/
theorem advanceTimers_of_waiting {m : Machine} (h : m.prescaler ≠ 0) :
    m.advanceTimers = { m with prescaler := m.prescaler - 1 } := by
  simp [advanceTimers, h]

/-- Taking a frame does not touch the state. -/
@[simp] theorem takeFrame_state (m : Machine) : m.takeFrame.2.state = m.state := by
  unfold takeFrame
  split <;> rfl

end Machine

end ChipVm
