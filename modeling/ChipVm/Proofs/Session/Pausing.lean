import ChipVm.Proofs.Latest
import ChipVm.Proofs.Session.Conduct

/-!
# Pausing and stepping

Whether the program is paused is what the last of the two keys for it says.  Whether it is stepped
through is asked anew in every pass: a step that was asked for is concluded at the end of the pass,
so that it lasts no longer, and asking for it twice asks for nothing more.  Once the events of a
pass are handled, one instruction is executed if the program is not paused or a step was asked for
in this pass, and the timers are offered a tick if the instruction succeeds; otherwise the pass ends
as it is.

* `Session.latest_follow` — what the acts that have taken place have made of a matter; in particular
  `Session.paused_follow` and `Session.stepping_follow`.
* `Session.update_of_running`, `Session.update_of_waiting` — what a pass does after its events.
* `Session.state_of_waiting` — a program that waits stays as it is until events are asked for again.
* `Session.run_of_leave` — what comes after the end of a session does not count.
* **`Session.pausing_and_stepping`** — all of this, for every pass of a run.
-/

namespace ChipVm

/-- `Escape` goes down: the session is over. -/
abbrev Event.leave : Event := .keyDown (some .escape)

namespace Session

variable {s t u : Session} {acts : List Act}

/-! ## The acts that count -/

/-- **What each act makes of a matter, if anything, the last of them has made of it.** -/
lemma latest_follow {β : Type} {f : Act → Option β} {g : Session → β}
    (hstep : ∀ a u v, a.stage u = (.goesOn, v) → g v = (f a).getD (g u))
    (h : follow acts s = (.goesOn, t)) : g t = latest f (g s) acts := by
  induction acts generalizing s with
  | nil =>
      cases h
      exact (latest_nil f (g t)).symm
  | cons a acts ih =>
      obtain ⟨u, hu, hrest⟩ := follow_cons_eq_goesOn_iff.mp h
      rw [ih hrest, hstep a s u hu, latest_cons]

/-- The last of the keys for it says whether the program is paused. -/
lemma paused_follow (h : follow acts s = (.goesOn, t)) :
    t.paused = latest Act.pausing? s.paused acts :=
  latest_follow (fun _ _ _ huv => (within_of_goesOn huv).paused) h

/-- A step is due if it was asked for since the last one was concluded. -/
lemma stepping_follow (h : follow acts s = (.goesOn, t)) :
    t.stepping = latest Act.stepping? s.stepping acts :=
  latest_follow (fun _ _ _ huv => (within_of_goesOn huv).stepping) h

lemma pausing?_eq_bind (a : Act) : a.pausing? = a.event?.bind Event.pausing? := by
  cases a <;> rfl

lemma latest_pausing_handle (before : Bool) (events : List Event) :
    latest Act.pausing? before (events.map .handle) = latest Event.pausing? before events := by
  rw [latest_filterMap Act.event? fun a _ => pausing?_eq_bind a, filterMap_event?_handle]

/-- Of a pass, only its events count for whether the program is paused. -/
lemma latest_pausing_passes (before : Bool) (passes : List Pass) :
    latest Act.pausing? before (passes.flatMap Pass.agenda) =
      latest Event.pausing? before (passes.flatMap Pass.events) := by
  rw [latest_filterMap Act.event? fun a _ => pausing?_eq_bind a, filterMap_event?_passes]

/-- At the end of a pass, no step is due. -/
lemma latest_stepping_passes (passes : List Pass) :
    latest Act.stepping? false (passes.flatMap Pass.agenda) = false := by
  induction passes with
  | nil => rfl
  | cons p passes ih =>
      have hpass : latest Act.stepping? false p.agenda = false := by
        rw [Pass.agenda, latest_append]
        rfl
      rw [List.flatMap_cons, latest_append, hpass, ih]

lemma latest_stepping_handle (before : Bool) (events : List Event) :
    latest Act.stepping? before (events.map .handle) = (before || decide (.step ∈ events)) := by
  induction events generalizing before with
  | nil => exact (Bool.or_false before).symm
  | cons e events ih =>
      rw [List.map_cons, latest_cons, ih, Act.stepping?, Event.stepping?]
      split_ifs with he
      · simp [he]
      · simp [Ne.symm he]

variable {options : Options} {disk : Disk} {ws : WindowSystem} {log : Log} {done rest : List Pass}
  {p : Pass}

/-- What is done in a run until a pass asks for events. -/
def untilPoll (options : Options) (done : List Pass) : List Act :=
  options.agenda ++ (done.flatMap Pass.agenda ++ [.showFrame, .poll])

lemma paused_of_untilPoll
    (hu : follow (untilPoll options done) (idle options disk ws log) = (.goesOn, u)) :
    u.paused = latest Event.pausing? options.paused (done.flatMap Pass.events) := by
  rw [paused_follow hu, untilPoll, latest_append, latest_append, ← latest_pausing_passes]
  rfl

lemma stepping_of_untilPoll
    (hu : follow (untilPoll options done) (idle options disk ws log) = (.goesOn, u)) :
    u.stepping = false := by
  rw [stepping_follow hu, untilPoll, latest_append, latest_append]
  exact latest_stepping_passes done

/-! ## After the events -/

/-- The session after an instruction that succeeded and a tick offered to the timers. -/
def executed (s : Session) (cpu : Outcome Unit) : Session :=
  { s with machine := cpu.machine.advanceTimers, log := cpu.log }

/-- **A program that is not paused, or is stepped through, executes one instruction,** and the
timers are offered one tick if it succeeds. -/
lemma update_of_running {random : UInt8} {cpu : Outcome Unit}
    (hrunning : s.paused = false ∨ s.stepping = true)
    (hcpu : s.machine.advanceCpu random s.log = cpu) :
    (∀ fault, cpu.answer = .error fault →
      update random s = (.failed (.machine fault), s.adopt cpu)) ∧
    (cpu.answer = .ok () → update random s = (.goesOn, if s.stepping
      then { s.executed cpu with stepping := false }.inspect else s.executed cpu)) := by
  have hdue : (!s.paused || s.stepping) = true := by simpa using hrunning
  refine ⟨fun fault h => ?_, fun h => ?_⟩
  · have hadvance : advance random s = (.failed (.machine fault), s.adopt cpu) := by
      simp only [advance, hdue, if_true, Machine.tick, hcpu, h]
    rw [update, Stage.andThen, hadvance]
  · have hadvance : advance random s = (.goesOn, s.executed cpu) := by
      simp only [advance, hdue, if_true, Machine.tick, hcpu, h]
      rfl
    rw [update, Stage.andThen_of_goesOn hadvance, concludeStep]
    exact (apply_ite (Prod.mk Verdict.goesOn) _ _ _).symm

lemma advance_of_waiting (hpaused : s.paused = true) (hstepping : s.stepping = false)
    (random : UInt8) : advance random s = (.goesOn, s) := by
  simp [advance, hpaused, hstepping]

/-- **A program that waits executes nothing.** -/
lemma update_of_waiting (hpaused : s.paused = true) (hstepping : s.stepping = false)
    (random : UInt8) : update random s = (.goesOn, s) := by
  rw [update, Stage.andThen_of_goesOn (advance_of_waiting hpaused hstepping random), concludeStep,
    hstepping]
  rfl

/-! ## While the program waits -/

lemma state_handle {e : Event} (he : e ≠ .restart ∧ e ≠ .load) :
    (handle e s).2.machine.state = s.machine.state := by
  have h := handling e
  generalize handle e = f at h ⊢
  cases h with
  | pause => exact congrArg Machine.state (inspect_machine _)
  | step | resume => rfl
  | restart => exact absurd rfl he.1
  | save => exact congrArg Machine.state s.saveState_machine
  | load => exact absurd rfl he.2
  | other _ hf =>
      obtain ⟨_, _, h⟩ := hf s
      rw [h]

/-- Acts that do not touch the state of the machine, whatever else they do. -/
def Still : Act → Prop
  | .showFrame | .poll | .concludeStep => True
  | .handle e => e ≠ .restart ∧ e ≠ .load
  | _ => False

lemma state_of_still {a : Act} (ha : Still a) (h : a.stage s = (.goesOn, t)) :
    t.machine.state = s.machine.state := by
  have ht : (a.stage s).2 = t := congrArg Prod.snd h
  cases a with
  | showFrame => exact ht ▸ s.showFrame_state
  | poll => rw [← ht]; rfl
  | concludeStep => exact ht ▸ congrArg Machine.state s.concludeStep_machine
  | handle e => exact ht ▸ state_handle ha
  | loadProgram | openWindow | openEvents | concludeStart | advance => exact ha.elim

lemma state_follow (hacts : ∀ a ∈ acts, Still a) (h : follow acts s = (.goesOn, t)) :
    t.machine.state = s.machine.state :=
  follow_induction (P := fun u => u.machine.state = s.machine.state)
    (fun _ ha _ _ huv hu => (state_of_still (hacts _ ha) huv).trans hu) rfl h

/-- What is done from the time a pass asks for events until the next one does. -/
def betweenPolls (p : Pass) : List Act :=
  p.events.map .handle ++ [.advance p.random, .concludeStep, .showFrame, .poll]

/-- **While the program waits, its state stays as it is.** -/
lemma state_of_waiting (hevents : ∀ e ∈ p.events, e ≠ .restart ∧ e ≠ .load)
    (hs : follow (p.events.map .handle) u = (.goesOn, s)) (hpaused : s.paused = true)
    (hstepping : s.stepping = false) (hacts : acts <+: betweenPolls p)
    (h : follow acts u = (.goesOn, t)) : t.machine.state = u.machine.state := by
  have hstill : ∀ a ∈ p.events.map Act.handle, Still a := by
    rintro a ha
    obtain ⟨e, he, rfl⟩ := List.mem_map.mp ha
    exact hevents e he
  obtain ⟨left, hsplit⟩ := hacts
  rcases List.append_eq_append_iff.mp hsplit with ⟨after, hbefore, -⟩ | ⟨after, rfl, hafter⟩
  · exact state_follow (fun a ha => hstill a (hbefore ▸ List.mem_append_left after ha)) h
  · -- The events are handled, and what follows them begins with an instruction that is not due.
    rw [follow_append_of_goesOn hs] at h
    rw [← state_follow hstill hs]
    cases after with
    | nil =>
        cases h
        rfl
    | cons a after =>
        obtain ⟨rfl, hrest⟩ := List.cons.inj hafter
        obtain ⟨v, hv, hlater⟩ := follow_cons_eq_goesOn_iff.mp h
        obtain rfl : s = v :=
          congrArg Prod.snd ((advance_of_waiting hpaused hstepping p.random).symm.trans hv)
        refine state_follow (fun a ha => ?_) hlater
        have hmem : a ∈ [Act.concludeStep, .showFrame, .poll] :=
          hrest ▸ List.mem_append_left left ha
        simp only [List.mem_cons, List.not_mem_nil, or_false] at hmem
        rcases hmem with rfl | rfl | rfl <;> trivial

/-! ## After the end -/

/-- The session is over. -/
def leaving : Stage := fun s => (.ended, s)

lemma leaving_andThen (f : Stage) : leaving.andThen f = leaving := rfl

/-- Of a pass in which the session is left, and of what comes after it, only what comes before this
counts. -/
lemma pass_of_leave {e : Event} (he : e = .quit ∨ e = .leave) (seen unseen : List Event)
    (random : UInt8) (f : Stage) : (pass ⟨seen ++ e :: unseen, random⟩).andThen f =
      (prepare.andThen (handleAll seen)).andThen leaving := by
  have hleaving : handle e = leaving := by rcases he with rfl | rfl <;> rfl
  rw [pass, handleAll_append, handleAll, hleaving]
  simp only [Stage.andThen_assoc, leaving_andThen]

/-- **Nothing that comes after the session is left has an effect,** neither in the same pass nor
later. -/
lemma run_of_leave {e : Event} (he : e = .quit ∨ e = .leave) (seen unseen : List Event)
    (random : UInt8) : run options (done ++ ⟨seen ++ e :: unseen, random⟩ :: rest) =
      run options (done ++ [⟨seen ++ [e], 0⟩]) := by
  simp only [run, passes_append, passes, Stage.andThen_assoc, pass_of_leave he]

/-! ## Passes of a run -/

/-- Of a run there is left, once the events of a pass are handled, the end of the pass and the
passes after it. -/
lemma run_of_handled
    (hu : follow (untilPoll options done) (idle options disk ws log) = (.goesOn, u))
    (hs : follow (p.events.map .handle) u = (.goesOn, s)) :
    run options (done ++ p :: rest) (idle options disk ws log) =
      ((update p.random).andThen (passes (rest ++ [lastPass]))) s := by
  have hagenda : agenda options (done ++ p :: rest) = untilPoll options done ++
      (p.events.map .handle ++ ([.advance p.random, .concludeStep] ++
        (rest ++ [lastPass]).flatMap Pass.agenda)) := by
    simp [agenda, untilPoll, Pass.agenda, Pass.opening]
  rw [run_eq_follow, hagenda, follow_append_of_goesOn hu, follow_append_of_goesOn hs,
    follow_append, update_eq_follow, passes_eq_follow]

/-- **Pausing and stepping in a run.**  A pass asks for events in the session `u` and has handled
them in the session `s`.

Then the last key for it says whether the program is paused.  If it is not, or if a step was asked
for in this pass, one instruction is executed and the timers are offered one tick, unless the
instruction fails.  Otherwise nothing happens, and if the program was not started over and no state
was loaded either, the state is the same all the time until events are asked for again.

No event that comes after the session is left has an effect. -/
theorem pausing_and_stepping (rest : List Pass)
    (hu : follow (untilPoll options done) (idle options disk ws log) = (.goesOn, u))
    (hs : handleAll p.events u = (.goesOn, s)) :
    run options (done ++ p :: rest) (idle options disk ws log) =
      ((update p.random).andThen (passes (rest ++ [lastPass]))) s ∧
    s.paused = latest Event.pausing? options.paused (done.flatMap Pass.events ++ p.events) ∧
    (s.paused = false ∨ .step ∈ p.events → ∀ cpu, s.machine.advanceCpu p.random s.log = cpu →
      (∀ fault, cpu.answer = .error fault →
        update p.random s = (.failed (.machine fault), s.adopt cpu)) ∧
      (cpu.answer = .ok () → update p.random s = (.goesOn, if .step ∈ p.events
        then { s.executed cpu with stepping := false }.inspect else s.executed cpu))) ∧
    (s.paused = true → .step ∉ p.events → update p.random s = (.goesOn, s) ∧
      ((∀ e ∈ p.events, e ≠ .restart ∧ e ≠ .load) → ∀ acts t, acts <+: betweenPolls p →
        follow acts u = (.goesOn, t) → t.machine.state = u.machine.state)) ∧
    ∀ (e : Event) (seen unseen : List Event) (random : UInt8), e = .quit ∨ e = .leave →
      run options (done ++ ⟨seen ++ e :: unseen, random⟩ :: rest) =
        run options (done ++ [⟨seen ++ [e], 0⟩]) := by
  rw [handleAll_eq_follow] at hs
  have hstepping : s.stepping = decide (.step ∈ p.events) := by
    rw [stepping_follow hs, stepping_of_untilPoll hu, latest_stepping_handle, Bool.false_or]
  refine ⟨run_of_handled hu hs, ?_, ?_, ?_,
    fun e seen unseen random he => run_of_leave he seen unseen random⟩
  · rw [paused_follow hs, paused_of_untilPoll hu, latest_pausing_handle, latest_append]
  · intro hrunning cpu hcpu
    have hdue : s.paused = false ∨ s.stepping = true := by simpa [hstepping] using hrunning
    simpa [hstepping] using update_of_running hdue hcpu
  · intro hpaused hstep
    have hnone : s.stepping = false := by simpa [hstepping] using hstep
    exact ⟨update_of_waiting hpaused hnone p.random, fun hevents acts t hacts ht =>
      state_of_waiting hevents hs hpaused hnone hacts ht⟩

/-- A pass in which the counting program is started over and stepped through. -/
def steppingPass : Pass := ⟨[.restart, .step, .step], 0⟩

/-- A pass in which it waits. -/
def waitingPass : Pass := ⟨[.save, .keyDown (some (.char '1')), .pause], 0⟩

/-- The counting program executes one instruction in the first of these passes, in which a step is
asked for twice, and none in the second one. -/
theorem pausing_and_stepping_counting :
    let u := (follow (untilPoll countingOptions []) countingFirst).2
    let s := (handleAll steppingPass.events u).2
    let u' := (follow (untilPoll countingOptions [steppingPass]) countingFirst).2
    let s' := (handleAll waitingPass.events u').2
    (follow (untilPoll countingOptions []) countingFirst = (.goesOn, u) ∧
      handleAll steppingPass.events u = (.goesOn, s) ∧ .step ∈ steppingPass.events ∧
      ∃ cpu, s.machine.advanceCpu 0 s.log = cpu ∧ cpu.answer = .ok () ∧
        update 0 s = (.goesOn, { s.executed cpu with stepping := false }.inspect)) ∧
    (follow (untilPoll countingOptions [steppingPass]) countingFirst = (.goesOn, u') ∧
      handleAll waitingPass.events u' = (.goesOn, s') ∧ s'.paused = true ∧
      .step ∉ waitingPass.events ∧ (∀ e ∈ waitingPass.events, e ≠ .restart ∧ e ≠ .load) ∧
      update 0 s' = (.goesOn, s') ∧ ∀ acts t, acts <+: betweenPolls waitingPass →
        follow acts u' = (.goesOn, t) → t.machine.state = u'.machine.state) := by
  intro u s u' s'
  have hu : follow (untilPoll countingOptions []) countingFirst = (.goesOn, u) :=
    Prod.ext (by decide +kernel) rfl
  have hs : handleAll steppingPass.events u = (.goesOn, s) := Prod.ext (by decide +kernel) rfl
  have hu' : follow (untilPoll countingOptions [steppingPass]) countingFirst = (.goesOn, u') :=
    Prod.ext (by decide +kernel) rfl
  have hs' : handleAll waitingPass.events u' = (.goesOn, s') := Prod.ext (by decide +kernel) rfl
  have hstep : .step ∈ steppingPass.events := by decide
  have hcpu : (s.machine.advanceCpu 0 s.log).answer = .ok () := by decide +kernel
  have hpaused : s'.paused = true := by decide +kernel
  have hnostep : .step ∉ waitingPass.events := by decide
  have hevents : ∀ e ∈ waitingPass.events, e ≠ .restart ∧ e ≠ .load := by decide
  obtain ⟨-, -, hrunning, -, -⟩ := pausing_and_stepping [] hu hs
  obtain ⟨-, -, -, hwaiting, -⟩ := pausing_and_stepping [] hu' hs'
  obtain ⟨hupdate, hstate⟩ := hwaiting hpaused hnostep
  exact ⟨⟨hu, hs, hstep, _, rfl, hcpu, (hrunning (.inr hstep) _ rfl).2 hcpu⟩,
    hu', hs', hpaused, hnostep, hevents, hupdate, hstate hevents⟩

end Session

end ChipVm
