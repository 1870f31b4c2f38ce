import ChipVm.Proofs.Execution.Trail
import ChipVm.Proofs.Machine.Frames
import ChipVm.Proofs.Machine.Resumption

/-!
# The timers of a machine

The two timers are counted down by the ticks that a machine is offered, behind a prescaler that lets
one tick in eight through.  Which one this is depends on where the prescaler stands: a prescaler at
`c` holds back `c` ticks first, so that of `n` ticks `(n + 7 - c) / 8` get through, and afterwards
it stands at `c - n` modulo 8.

Nothing else touches prescaler or timers, apart from what replaces the whole state, and the two
instructions that set a timer.  What a machine does between two ticks therefore does not matter, and
what `n` ticks and then `n'` ticks do is what `n + n'` ticks do.

* `Machine.Elapsed` — what some ticks do to the prescaler and the timers.
* `Deed.SparesTimers` — an operation that replaces no state and sets no timer.
* `Machine.Elapsed.trans` — ticks add up; `Machine.perform_elapsed` — one operation.
* **`Machine.timers_exact`** — the timers after any history of such operations.
-/

namespace ChipVm

namespace Machine

/-! ## Ticks -/

/-- How many of `n` ticks a prescaler that stands at `c` lets through. -/
def passed (c n : Nat) : Nat := (n + 7 - c) / 8

/-- The prescaler and the timers after `n` ticks.  The timers stop at zero. -/
structure Elapsed (n : Nat) (m m' : Machine) : Prop where
  prescaler : (m'.prescaler.toNat : Int) = ((m.prescaler.toNat : Int) - n) % 8
  delayTimer : m'.state.delayTimer.toNat = m.state.delayTimer.toNat - passed m.prescaler.toNat n
  soundTimer : m'.state.soundTimer.toNat = m.state.soundTimer.toNat - passed m.prescaler.toNat n

variable {m m' m'' : Machine} {n n' : Nat}

/-- Without a tick nothing changes. -/
lemma elapsed_zero (hm : m.prescaler.toNat < 8) (hprescaler : m'.prescaler = m.prescaler)
    (hdelay : m'.state.delayTimer = m.state.delayTimer)
    (hsound : m'.state.soundTimer = m.state.soundTimer) : Elapsed 0 m m' := by
  have hpassed : passed m.prescaler.toNat 0 = 0 := by
    rw [passed]
    omega
  refine ⟨?_, ?_, ?_⟩
  · rw [hprescaler]
    omega
  · rw [hdelay, hpassed, Nat.sub_zero]
  · rw [hsound, hpassed, Nat.sub_zero]

/-- **Ticks add up.** -/
lemma Elapsed.trans (h : Elapsed n m m') (h' : Elapsed n' m' m'') (hm : m.prescaler.toNat < 8) :
    Elapsed (n + n') m m'' := by
  have hprescaler := h.prescaler
  have hpassed : passed m.prescaler.toNat (n + n') =
      passed m.prescaler.toNat n + passed m'.prescaler.toNat n' := by
    simp only [passed]
    omega
  refine ⟨?_, ?_, ?_⟩
  · rw [h'.prescaler, h.prescaler]
    omega
  · rw [h'.delayTimer, h.delayTimer, hpassed, Nat.sub_sub]
  · rw [h'.soundTimer, h.soundTimer, hpassed, Nat.sub_sub]

/-- **One tick** gets through if the prescaler stands at zero. -/
lemma elapsed_advanceTimers (hm : m.prescaler.toNat < 8) : Elapsed 1 m m.advanceTimers := by
  by_cases hzero : m.prescaler = 0
  · have hpassed : passed m.prescaler.toNat 1 = 1 := by
      rw [hzero]
      rfl
    rw [advanceTimers, if_pos hzero]
    refine ⟨?_, ?_, ?_⟩
    · rw [hzero]
      rfl
    · rw [hpassed]
      exact countDown_toNat _
    · rw [hpassed]
      exact countDown_toNat _
  · have hpos : m.prescaler.toNat ≠ 0 := fun h => hzero (UInt8.toNat_inj.mp h)
    have hpassed : passed m.prescaler.toNat 1 = 0 := by
      rw [passed]
      omega
    rw [advanceTimers_of_waiting hzero]
    refine ⟨?_, ?_, ?_⟩
    · show ((m.prescaler - 1).toNat : Int) = _
      rw [UInt8.toNat_sub]
      have hone : (1 : UInt8).toNat = 1 := rfl
      omega
    · rw [hpassed, Nat.sub_zero]
    · rw [hpassed, Nat.sub_zero]

end Machine

/-! ## Operations -/

/-- The timers are offered a tick. -/
def Operation.offersTick : Operation → Bool
  | .advanceTimers => true
  | _ => false

namespace Deed

/-- The operation fails. -/
def Fails (d : Deed) : Prop := ∃ fault, d.outcome.answer = .error fault

/-- The operation leaves the timers to the ticks: it fails, or it replaces no state and executes
neither of the two instructions that set a timer. -/
def SparesTimers (d : Deed) : Prop :=
  d.Fails ∨
    match d.operation with
    | .loadRom _ | .reset | .restore _ => False
    | .advanceCpu _ =>
        d.machine.state.instruction? ≠ some .setDelay ∧
          d.machine.state.instruction? ≠ some .setSound
    | .advanceTimers | .press _ | .release _ | .takeFrame | .save => True

end Deed

namespace Machine

variable {m : Machine} {log : Log}

lemma answer_of_reply {o : Outcome Unit} {fault : Fault} (h : o.reply.answer = .error fault) :
    o.answer = .error fault := by
  rw [Outcome.reply] at h
  rcases ho : o.answer with other | ⟨⟩
  · rw [ho] at h
    exact congrArg Except.error (Except.error.inj h)
  · rw [ho] at h
    cases h

/-- A failed operation changes neither the state nor the prescaler. -/
lemma perform_of_fails {op : Operation} (h : (Deed.mk m log op).Fails) :
    (m.perform log op).machine.state = m.state ∧
      (m.perform log op).machine.prescaler = m.prescaler := by
  obtain ⟨fault, hfault⟩ := h
  rw [Deed.outcome] at hfault
  cases op with
  | loadRom rom =>
      have hsame := loadRom_of_error (answer_of_reply hfault)
      exact ⟨congrArg (·.state) hsame, congrArg (·.prescaler) hsame⟩
  | reset =>
      -- The program is out of the machine then, which does not matter to the timers.
      have hsame := loadRom_of_error (answer_of_reply hfault)
      exact ⟨congrArg (·.state) hsame, congrArg (·.prescaler) hsame⟩
  | advanceCpu random =>
      have hsame := advanceCpu_of_error (answer_of_reply hfault)
      exact ⟨congrArg (·.state) hsame, congrArg (·.prescaler) hsame⟩
  | restore text =>
      have hsame := restore_of_error (answer_of_reply hfault)
      exact ⟨congrArg (·.state) hsame, congrArg (·.prescaler) hsame⟩
  | advanceTimers | takeFrame | press | release | save => cases hfault

/-- An instruction that sets no timer leaves both alone. -/
lemma timers_advanceCpu (m : Machine) (random : UInt8) (log : Log)
    (hdelay : m.state.instruction? ≠ some .setDelay)
    (hsound : m.state.instruction? ≠ some .setSound) :
    (m.advanceCpu random log).machine.prescaler = m.prescaler ∧
      (m.advanceCpu random log).machine.state.delayTimer = m.state.delayTimer ∧
      (m.advanceCpu random log).machine.state.soundTimer = m.state.soundTimer := by
  obtain ⟨_, hcpu⟩ := m.exists_advanceCpu_eq random log
  rw [hcpu]
  rcases hcycle : m.state.cycle ⟨m.keys, random⟩ with fault | next
  · exact ⟨rfl, rfl, rfl⟩
  · obtain ⟨ins, hfits, hexecute⟩ := State.exists_execute_of_obey hcycle
    have hins : m.state.instruction? = some ins := Instruction.ofWord?_of_fits hfits
    have hwithin := Instruction.execute_within hexecute
    refine ⟨rfl, ?_, ?_⟩
    · by_contra hchange
      exact hdelay (hins.trans (congrArg some (hwithin.delayTimer hchange)))
    · by_contra hchange
      exact hsound (hins.trans (congrArg some (hwithin.soundTimer hchange)))

/-- **One operation** that spares the timers does what its ticks do. -/
lemma perform_elapsed {op : Operation} (hm : m.prescaler.toNat < 8)
    (h : (Deed.mk m log op).SparesTimers) :
    Elapsed (if op.offersTick then 1 else 0) m (m.perform log op).machine := by
  rcases h with hfails | hspares
  · obtain ⟨hstate, hprescaler⟩ := perform_of_fails hfails
    have hnone : op.offersTick = false := by
      obtain ⟨fault, hfault⟩ := hfails
      cases op with
      | advanceTimers => cases hfault
      | _ => rfl
    rw [hnone]
    exact elapsed_zero hm hprescaler (by rw [hstate]) (by rw [hstate])
  · cases op with
    | loadRom | reset | restore => exact hspares.elim
    | advanceCpu random =>
        obtain ⟨hdelay, hsound⟩ := hspares
        obtain ⟨hprescaler, hdelay, hsound⟩ := m.timers_advanceCpu random log hdelay hsound
        exact elapsed_zero hm hprescaler hdelay hsound
    | advanceTimers => exact elapsed_advanceTimers hm
    | takeFrame =>
        have hprescaler : m.takeFrame.2.prescaler = m.prescaler := by
          rw [takeFrame]
          split_ifs <;> rfl
        exact elapsed_zero hm hprescaler (by rw [perform, takeFrame_state])
          (by rw [perform, takeFrame_state])
    | press | release | save => exact elapsed_zero hm rfl rfl rfl

/-- **Any history** of such operations does what its ticks do. -/
lemma Sound.performAll_elapsed (hm : m.Sound) (log : Log) (ops : List Operation)
    (h : ∀ d ∈ m.deeds log ops, d.SparesTimers) :
    Elapsed (ops.countP Operation.offersTick) m (m.performAll log ops).1 := by
  induction ops generalizing m log with
  | nil => exact elapsed_zero hm.prescaler_lt rfl rfl rfl
  | cons op ops ih =>
      obtain ⟨hop, hops⟩ := List.forall_mem_cons.mp h
      have hfirst := perform_elapsed hm.prescaler_lt hop
      have hrest := ih (hm.perform log op) (m.perform log op).log hops
      rw [performAll_cons, List.countP_cons, Nat.add_comm]
      exact hfirst.trans hrest hm.prescaler_lt

/-- **The timers count down with the ticks, one in eight, and nothing else matters.**  From any
machine that some history leads to, take any history that replaces no state and executes neither of
the two instructions that set a timer, with failed operations anywhere.  If it offers `n` ticks and
the prescaler stands at `c`, both timers go down by the `(n + 7 - c) / 8` ticks that get through and
stop at zero, and the prescaler ends at `c - n` modulo 8. -/
theorem timers_exact (hm : m.Reachable) (log : Log) (ops : List Operation)
    (hops : ∀ d ∈ m.deeds log ops, d.SparesTimers) :
    let m' := (m.performAll log ops).1
    let n : Int := ops.countP Operation.offersTick
    let c : Int := m.prescaler.toNat
    (m'.state.delayTimer.toNat : Int) = max 0 (m.state.delayTimer.toNat - (n + 7 - c) / 8) ∧
      (m'.state.soundTimer.toNat : Int) = max 0 (m.state.soundTimer.toNat - (n + 7 - c) / 8) ∧
      (m'.prescaler.toNat : Int) = (c - n) % 8 := by
  intro m' n c
  have hc : m.prescaler.toNat < 8 := hm.sound.prescaler_lt
  obtain ⟨hprescaler, hdelay, hsound⟩ := hm.sound.performAll_elapsed log ops hops
  have hpassed : (n + 7 - c) / 8 =
      passed m.prescaler.toNat (ops.countP Operation.offersTick) := by
    simp only [n, c, passed]
    omega
  rw [hpassed]
  refine ⟨?_, ?_, hprescaler⟩
  · rw [hdelay]
    omega
  · rw [hsound]
    omega

/-- A machine that has just taken in the waiting game, on which a text is refused, an instruction is
executed, and the screen is taken between two ticks.  The first tick gets through, the second one
does not. -/
theorem timers_exact_waiting :
    let ops := [.restore "", .advanceCpu 0, .advanceTimers, .takeFrame, .advanceTimers]
    let m' := (waitingMachine.performAll Log.silent ops).1
    waitingMachine.Reachable ∧ (∀ d ∈ waitingMachine.deeds Log.silent ops, d.SparesTimers) ∧
      waitingMachine.state.delayTimer = 1 ∧ m'.state.delayTimer.toNat = 0 ∧
      m'.prescaler.toNat = 6 := by
  intro ops
  have hreachable : waitingMachine.Reachable := ⟨_, _, performAll_restore_waitingGame⟩
  have hrefused : waitingMachine.perform Log.silent (.restore "") =
      ⟨.error .malformedSave, waitingMachine, Log.silent⟩ := by
    have hempty : State.restore "" = .error .malformedSave := by decide +kernel
    rw [perform, restore, hempty]
    rfl
  have hjump : waitingMachine.state.instruction? = some .jump := by decide +kernel
  have hops : ∀ d ∈ waitingMachine.deeds Log.silent ops, d.SparesTimers := by
    simp only [ops, deeds, hrefused, List.forall_mem_cons]
    refine ⟨.inl ⟨_, congrArg Outcome.answer hrefused⟩, .inr ?_, .inr trivial, .inr trivial,
      .inr trivial, List.forall_mem_nil _⟩
    show waitingMachine.state.instruction? ≠ _ ∧ waitingMachine.state.instruction? ≠ _
    rw [hjump]
    decide
  obtain ⟨hdelay, -, hprescaler⟩ := timers_exact hreachable Log.silent ops hops
  have hone : waitingMachine.state.delayTimer = 1 := rfl
  have hzero : waitingMachine.prescaler = 0 := rfl
  have hcount : ops.countP Operation.offersTick = 2 := rfl
  rw [hcount, hzero] at hdelay hprescaler
  rw [hone] at hdelay
  generalize (waitingMachine.performAll Log.silent ops).1 = m' at hdelay hprescaler ⊢
  refine ⟨hreachable, hops, hone, ?_, ?_⟩
  · exact Int.ofNat_inj.mp (hdelay.trans (by decide))
  · exact Int.ofNat_inj.mp (hprescaler.trans (by decide))

end Machine

end ChipVm
