import ChipVm.Proofs.Machine.Failures
import ChipVm.Proofs.Machine.Invariant

/-!
# Resuming a saved game

A saved text holds the state and nothing else.  A machine that restores it goes on exactly as the
machine that wrote it if the same keys are held and the prescalers of the two agree.  The prescaler
is not part of the state: it belongs to whoever drives the processor, and a machine keeps its own
when it restores a text.  Two machines out of step in this way count their timers down at different
moments, and a game that looks at a timer can tell.  As long as the timers are not offered a tick,
the prescalers do not matter.

* `Move`, `Machine.play` — what happens to a machine while a game goes on, and what is seen of it.
* `Machine.Agree` — machines that a game cannot tell apart.
* **`Machine.resumes_out_of_step`** — two machines whose prescalers differ, and the same save.
* **`Machine.play_restore_save`** — otherwise a saved game resumes as if it had never stopped.
-/

namespace ChipVm

/-- Something that happens to a machine while a game goes on. -/
inductive Move where
  /-- Execute one instruction and, if that succeeds, offer the timers a tick. -/
  | tick (random : UInt8)
  /-- Execute one instruction. -/
  | advanceCpu (random : UInt8)
  /-- Offer the timers a tick. -/
  | advanceTimers
  /-- A key goes down. -/
  | press (key : UInt8)
  /-- A key comes up. -/
  | release (key : UInt8)

/-- The move offers the timers a tick. -/
def Move.Timed : Move → Prop
  | .tick _ | .advanceTimers => True
  | .advanceCpu _ | .press _ | .release _ => False

namespace Machine

/-- Makes one move. -/
def move (m : Machine) (log : Log) : Move → Outcome Unit
  | .tick random => m.tick random log
  | .advanceCpu random => m.advanceCpu random log
  | .advanceTimers => ⟨.ok (), m.advanceTimers, log⟩
  | .press key => ⟨.ok (), m.press key, log⟩
  | .release key => ⟨.ok (), m.release key, log⟩

/-- The answer to each move and the state after it, whether or not the move succeeds. -/
def play (m : Machine) (log : Log) : List Move → List (Except Fault Unit × State)
  | [] => []
  | mv :: moves =>
      let done := m.move log mv
      (done.answer, done.machine.state) :: done.machine.play done.log moves

/-! ## Machines that go on alike -/

/-- The machines have the same state and the same keys held and, if the timers are going to be
offered ticks, the same prescaler. -/
structure Agree (timed : Prop) (m m' : Machine) : Prop where
  state : m.state = m'.state
  keys : m.keys = m'.keys
  prescaler : timed → m.prescaler = m'.prescaler

variable {timed : Prop} {m m' : Machine}

lemma Agree.advanceCpu (h : Agree timed m m') (random : UInt8) (log log' : Log) :
    (m.advanceCpu random log).answer = (m'.advanceCpu random log').answer ∧
      Agree timed (m.advanceCpu random log).machine (m'.advanceCpu random log').machine := by
  obtain ⟨_, hm⟩ := m.exists_advanceCpu_eq random log
  obtain ⟨_, hm'⟩ := m'.exists_advanceCpu_eq random log'
  rw [hm, hm', h.state, h.keys]
  rcases m'.state.cycle ⟨m'.keys, random⟩ with fault | next
  · exact ⟨rfl, h⟩
  · exact ⟨rfl, rfl, rfl, h.prescaler⟩

lemma Agree.advanceTimers (h : Agree timed m m') (htimed : timed) :
    Agree timed m.advanceTimers m'.advanceTimers := by
  rw [Machine.advanceTimers, Machine.advanceTimers, h.prescaler htimed, h.state]
  split_ifs
  · exact ⟨rfl, h.keys, fun _ => rfl⟩
  · exact ⟨rfl, h.keys, fun _ => rfl⟩

lemma Agree.tick (h : Agree timed m m') (htimed : timed) (random : UInt8) (log log' : Log) :
    (m.tick random log).answer = (m'.tick random log').answer ∧
      Agree timed (m.tick random log).machine (m'.tick random log').machine := by
  obtain ⟨hanswer, hdone⟩ := h.advanceCpu random log log'
  rw [Machine.tick, Machine.tick]
  generalize m.advanceCpu random log = done at hanswer hdone ⊢
  generalize m'.advanceCpu random log' = done' at hanswer hdone ⊢
  simp only [hanswer]
  rcases done'.answer with fault | ⟨⟩
  · exact ⟨hanswer, hdone⟩
  · exact ⟨rfl, hdone.advanceTimers htimed⟩

/-- **Machines that agree answer a move alike** and agree afterwards. -/
lemma Agree.move (h : Agree timed m m') {mv : Move} (htimed : mv.Timed → timed) (log log' : Log) :
    (m.move log mv).answer = (m'.move log' mv).answer ∧
      Agree timed (m.move log mv).machine (m'.move log' mv).machine := by
  cases mv with
  | tick random => exact h.tick (htimed trivial) random log log'
  | advanceCpu random => exact h.advanceCpu random log log'
  | advanceTimers => exact ⟨rfl, h.advanceTimers (htimed trivial)⟩
  | press key => exact ⟨rfl, h.state, congrArg (·.press key) h.keys, h.prescaler⟩
  | release key => exact ⟨rfl, h.state, congrArg (·.release key) h.keys, h.prescaler⟩

/-- **Machines that agree play a game alike.** -/
theorem Agree.play (h : Agree timed m m') {moves : List Move}
    (htimed : ∀ mv ∈ moves, mv.Timed → timed) (log log' : Log) :
    m.play log moves = m'.play log' moves := by
  induction moves generalizing m m' log log' with
  | nil => rfl
  | cons mv moves ih =>
      obtain ⟨hmv, hmoves⟩ := List.forall_mem_cons.mp htimed
      obtain ⟨hanswer, hnext⟩ := h.move hmv log log'
      rw [Machine.play, Machine.play, hanswer, hnext.state, ih hnext hmoves]

/-! ## Saved games -/

/-- A game whose delay timer stands at one, and whose program jumps to itself forever. -/
def waitingGame : State :=
  { State.blank with
    memory := Memory.zero.store programStart [0x12, 0x00]
    delayTimer := 1 }

lemma waitingGame_valid : waitingGame.Valid :=
  State.blank_valid.of_eq rfl rfl rfl

lemma cycle_waitingGame (input : Input) : waitingGame.cycle input = .ok waitingGame := by
  have hfits : Instruction.jump.pattern.Fits waitingGame.fetch :=
    Instruction.fits_of_ofWord? (by decide +kernel)
  have hnnn : waitingGame.fetch.nnn = programStart := by decide +kernel
  rw [State.cycle, State.obey_of_fits hfits, Instruction.execute, Instruction.act, hnnn]
  rfl

/-- A tick of the waiting game is a tick of its timers. -/
lemma play_waitingGame (hm : m.state = waitingGame) (log : Log) :
    m.play log [.tick 0] = [(.ok (), m.advanceTimers.state)] := by
  obtain ⟨_, hcpu⟩ := m.exists_advanceCpu_eq 0 log
  rw [hm, cycle_waitingGame] at hcpu
  have hagree : Agree True (m.advanceCpu 0 log).machine m := by
    rw [hcpu]
    exact ⟨hm.symm, rfl, fun _ => rfl⟩
  rw [← (hagree.advanceTimers trivial).state]
  simp only [play, move, tick, hcpu]

/-- A machine that has just restored the waiting game. -/
def waitingMachine : Machine := { fresh with state := waitingGame }

lemma performAll_restore_waitingGame :
    (fresh.performAll Log.silent [.restore waitingGame.save]).1 = waitingMachine := by
  rw [performAll_cons, perform, restore_save_eq waitingGame_valid]
  rfl

/-- **Restoring does not bring the prescalers into step.**  A machine that has just restored the
waiting game saves it, is ticked once, and restores its own save.  The first tick counted the delay
timer down; the same tick after the restore does not. -/
theorem resumes_out_of_step :
    ∃ m m' : Machine, m.Reachable ∧ m'.Reachable ∧ m'.rom = m.rom ∧ m'.keys = m.keys ∧
      (m'.restore m.save Log.silent).answer = .ok () ∧
      (m'.restore m.save Log.silent).machine.play Log.silent [.tick 0] ≠
        m.play Log.silent [.tick 0] := by
  have hcycle : waitingMachine.state.cycle ⟨waitingMachine.keys, 0⟩ = .ok waitingGame :=
    cycle_waitingGame _
  have hticked (log : Log) : (waitingMachine.performAll log [.advanceCpu 0, .advanceTimers]).1 =
      waitingMachine.advanceTimers := by
    obtain ⟨_, hcpu⟩ := waitingMachine.exists_advanceCpu_eq 0 log
    rw [hcycle] at hcpu
    rw [performAll_cons, perform, hcpu]
    rfl
  have hreachable : waitingMachine.advanceTimers.Reachable := by
    refine ⟨[.restore waitingGame.save] ++ [.advanceCpu 0, .advanceTimers], Log.silent, ?_⟩
    rw [performAll_append, performAll_restore_waitingGame]
    exact hticked _
  have hsave : waitingMachine.save = waitingGame.save := rfl
  have hrestore := restore_save_eq waitingGame_valid waitingMachine.advanceTimers Log.silent
  refine ⟨waitingMachine, waitingMachine.advanceTimers,
    ⟨_, _, performAll_restore_waitingGame⟩, hreachable, rfl, rfl, ?_, ?_⟩
  · rw [hsave, hrestore]
  · rw [hsave, hrestore, play_waitingGame rfl, play_waitingGame rfl]
    intro h
    -- The delay timer tells the two states apart.
    have htimer := congrArg (List.map fun seen => seen.2.delayTimer) h
    revert htimer
    decide +kernel

/-- **A saved game resumes as if it had never stopped.**  Restoring what a machine saved succeeds on
every machine, and if the two hold the same keys, the same moves are answered alike and lead through
the same states from then on.  If any of the moves offers the timers a tick, the prescalers must
agree, too. -/
theorem play_restore_save (hm : m.Reachable) (hkeys : m'.keys = m.keys) (moves : List Move)
    (hprescaler : (∃ mv ∈ moves, mv.Timed) → m'.prescaler = m.prescaler) (log log₁ log₂ : Log) :
    (m'.restore m.save log).answer = .ok () ∧
      (m'.restore m.save log).machine.play log₁ moves = m.play log₂ moves := by
  have hrestore := restore_save_eq hm.sound.valid m' log
  rw [save, hrestore]
  have hagree : Agree (∃ mv ∈ moves, mv.Timed) { m' with state := m.state, frameDue := true } m :=
    ⟨rfl, hkeys, hprescaler⟩
  exact ⟨rfl, hagree.play (fun mv hmv htimed => ⟨mv, hmv, htimed⟩) log₁ log₂⟩

/-- The waiting game, restored on a machine that runs another program. -/
theorem play_restore_save_elsewhere :
    let m' := (fresh.loadRom [0x00, 0xE0] Log.silent).machine
    let moves : List Move := [.tick 0x2A, .press 0x1, .advanceCpu 0, .release 0x1, .tick 0]
    waitingMachine.Reachable ∧ m'.keys = waitingMachine.keys ∧
      ((∃ mv ∈ moves, mv.Timed) → m'.prescaler = waitingMachine.prescaler) ∧
      (∃ mv ∈ moves, mv.Timed) ∧
      (m'.restore waitingMachine.save Log.silent).answer = .ok () ∧
      (m'.restore waitingMachine.save Log.silent).machine.play Log.silent moves =
        waitingMachine.play Log.silent moves := by
  intro m' moves
  have hreachable : waitingMachine.Reachable := ⟨_, _, performAll_restore_waitingGame⟩
  have hkeys : m'.keys = waitingMachine.keys := by decide +kernel
  have hprescaler : m'.prescaler = waitingMachine.prescaler := by decide +kernel
  have htimed : ∃ mv ∈ moves, mv.Timed := ⟨.tick 0x2A, List.mem_cons_self, trivial⟩
  exact ⟨hreachable, hkeys, fun _ => hprescaler, htimed,
    play_restore_save hreachable hkeys moves (fun _ => hprescaler) _ _ _⟩

end Machine

end ChipVm
