import ChipVm.Proofs.Machine.Invariant
import ChipVm.Proofs.Session.Agenda

/-!
# What each act may change

An act changes little of a session.  Files are written only when the state is saved, whether the
program is paused is decided by two keys only, and textures are presented only when the screen is
shown.  Whatever is done to the machine keeps it sound, because it is done through the operations of
the machine.

* `Event.commands` — the events that are commands to the session, by name.
* **`Session.handling`** — an event is one of these, or it moves a key of the keypad at most.
* `Act.Within` — what an act may change.
* **`Session.within_of_goesOn`** — every act stays within this.
-/

namespace ChipVm

namespace Event

/-- `P` goes down: the program is paused. -/
abbrev pause : Event := .keyDown (some (.char 'P'))

/-- `N` goes down: a step is asked for. -/
abbrev step : Event := .keyDown (some (.char 'N'))

/-- `Return` goes down: the program goes on. -/
abbrev resume : Event := .keyDown (some .enter)

/-- `Backspace` goes down: the program starts over. -/
abbrev restart : Event := .keyDown (some .backspace)

/-- `F5` goes down: the state is saved. -/
abbrev save : Event := .keyDown (some (.function 5))

/-- `F9` goes down: the state is loaded. -/
abbrev load : Event := .keyDown (some (.function 9))

/-- The events that are commands to the session. -/
def commands : List Event := [pause, step, resume, restart, save, load]

/-- Whether the program is paused by an event or goes on, if it is either. -/
def pausing? (e : Event) : Option Bool :=
  if e = pause then some true else if e = resume then some false else none

/-- Whether a step is asked for by an event. -/
def stepping? (e : Event) : Option Bool := if e = step then some true else none

variable {e : Event}

lemma pausing?_of_notMem (he : e ∉ commands) : e.pausing? = none := by
  simp only [commands, List.mem_cons, not_or] at he
  rw [pausing?, if_neg he.1, if_neg he.2.2.1]

lemma stepping?_of_notMem (he : e ∉ commands) : e.stepping? = none := by
  simp only [commands, List.mem_cons, not_or] at he
  rw [stepping?, if_neg he.2.1]

end Event

namespace Session

/-! ## Events -/

/-- What is done about an event: a command is obeyed, and no other event changes more than which
keys of the keypad are held. -/
inductive Handling : Event → Stage → Prop where
  | pause : Handling .pause fun s => (.goesOn, { s with paused := true }.inspect)
  | step : Handling .step fun s => (.goesOn, { s with stepping := true })
  | resume : Handling .resume fun s => (.goesOn, { s with paused := false })
  | restart : Handling .restart Session.restart
  | save : Handling .save saveState
  | load : Handling .load loadState
  | other {e : Event} {f : Stage} (he : e ∉ Event.commands)
      (hf : ∀ s, ∃ verdict keys,
        f s = (verdict, { s with machine := { s.machine with keys := keys } })) :
      Handling e f

lemma notMem_commands_of_keypad? {key : HostKey} {k : UInt8} (hk : key.keypad? = some k) :
    Event.keyDown (some key) ∉ Event.commands := by
  intro h
  simp only [Event.commands, List.mem_cons, Event.keyDown.injEq, Option.some.injEq,
    List.not_mem_nil, or_false] at h
  rcases h with rfl | rfl | rfl | rfl | rfl | rfl <;> cases hk

lemma handling_nothing {e : Event} (he : e ∉ Event.commands) (verdict : Verdict) :
    Handling e fun s => (verdict, s) :=
  .other he fun s => ⟨verdict, s.machine.keys, rfl⟩

lemma handling_command (key : HostKey) : Handling (.keyDown (some key)) (command key) := by
  unfold command
  split
  · exact handling_nothing (by decide) .ended
  · exact .pause
  · exact .step
  · exact .resume
  · exact .restart
  · exact .save
  · exact .load
  · refine handling_nothing ?_ .goesOn
    simp_all [Event.commands]

/-- **An event is a command, or it moves a key of the keypad at most.** -/
lemma handling (e : Event) : Handling e (handle e) := by
  cases e with
  | quit => exact handling_nothing (by decide) .ended
  | other => exact handling_nothing (by decide) .goesOn
  | keyUp key =>
      have he : Event.keyUp key ∉ Event.commands := by simp [Event.commands]
      rcases key with _ | key
      · exact handling_nothing he .goesOn
      · refine .other he fun s => ?_
        rw [handle]
        split
        · exact ⟨_, _, rfl⟩
        · exact ⟨_, s.machine.keys, rfl⟩
  | keyDown key =>
      rcases key with _ | key
      · exact handling_nothing (by decide) .goesOn
      · rcases hk : key.keypad? with _ | k
        · have hcommand : handle (.keyDown (some key)) = command key := by
            funext s
            simp only [handle, hk]
          rw [hcommand]
          exact handling_command key
        · have hpress : handle (.keyDown (some key)) =
              fun s => (.goesOn, { s with machine := s.machine.press k }) := by
            funext s
            simp only [handle, hk]
          rw [hpress]
          exact .other (notMem_commands_of_keypad? hk) fun s => ⟨_, _, rfl⟩

end Session

/-! ## Acts -/

namespace Act

/-- Whether the program is paused by an act or goes on, if it is either. -/
def pausing? : Act → Option Bool
  | .handle e => e.pausing?
  | _ => none

/-- Whether a step is asked for by an act or concluded, if it is either. -/
def stepping? : Act → Option Bool
  | .handle e => e.stepping?
  | .concludeStep => some false
  | _ => none

/-- What an act may change, by the session before it and the session after it. -/
structure Within (a : Act) (s t : Session) : Prop where
  /-- The state is saved to the same file for as long as the session lasts. -/
  stateFile : t.stateFile = s.stateFile
  /-- A file is written only when the state is saved. -/
  disk : a ≠ .handle .save → t.disk = s.disk
  /-- Only pausing and going on count for whether the program is paused. -/
  paused : t.paused = a.pausing?.getD s.paused
  /-- Only asking for a step and concluding it count for whether a step is due. -/
  stepping : t.stepping = a.stepping?.getD s.stepping
  /-- The rows of the textures keep their length. -/
  padding : t.windowSystem.padding = s.windowSystem.padding
  /-- A texture is presented only when the screen is shown. -/
  presented : a ≠ .showFrame → t.windowSystem.presented = s.windowSystem.presented
  /-- The machine stays sound. -/
  sound : s.machine.Sound → t.machine.Sound

/-- An act may do anything to the machine that keeps it sound, and say anything about it. -/
lemma within_of_sound {a : Act} (hpausing : a.pausing? = none) (hstepping : a.stepping? = none)
    {s : Session} {machine : Machine} (hsound : s.machine.Sound → machine.Sound) (log : Log)
    (window : UInt16) :
    a.Within s { s with machine := machine, log := log, listingWindow := window } :=
  ⟨rfl, fun _ => rfl, by rw [hpausing]; rfl, by rw [hstepping]; rfl, rfl, fun _ => rfl, hsound⟩

end Act

namespace WindowSystem

variable {ws ws' : WindowSystem}

/-- A request that succeeds uses up one of the successes before the failure, and nothing else. -/
lemma exists_eq_of_attempt {call : WindowCall} (h : ws.attempt call = .ok ws') :
    ∃ failing, ws' = { ws with failing := failing } := by
  unfold attempt at h
  split at h
  · split at h
    · split at h
      · cases h
      · cases h
        exact ⟨_, rfl⟩
    · cases h
      exact ⟨_, rfl⟩
  · cases h
    exact ⟨_, rfl⟩

lemma exists_eq_of_attemptAll {calls : List WindowCall} (h : ws.attemptAll calls = .ok ws') :
    ∃ failing, ws' = { ws with failing := failing } := by
  induction calls generalizing ws with
  | nil =>
      cases h
      exact ⟨_, rfl⟩
  | cons call calls ih =>
      rw [attemptAll] at h
      split at h
      · rename_i next hnext
        obtain ⟨_, rfl⟩ := exists_eq_of_attempt hnext
        obtain ⟨_, rfl⟩ := ih h
        exact ⟨_, rfl⟩
      · cases h

variable (ws)

lemma exists_buildWindow_eq (window : Window) :
    ∃ failing built,
      (ws.buildWindow window).2 = { ws with failing := failing, window := built } := by
  unfold buildWindow
  split
  · exact ⟨_, _, rfl⟩
  · rename_i opened hopened
    obtain ⟨_, rfl⟩ := exists_eq_of_attempt hopened
    dsimp only
    split
    · exact ⟨_, _, rfl⟩
    · rename_i drawn hdrawn
      obtain ⟨_, rfl⟩ := exists_eq_of_attempt hdrawn
      exact ⟨_, _, rfl⟩

lemma exists_openWindow_eq (scale : Nat) :
    ∃ failing window,
      (ws.openWindow scale).2 = { ws with failing := failing, window := window } := by
  unfold openWindow
  split
  · exact ⟨_, _, rfl⟩
  · rename_i opened hopened
    obtain ⟨_, rfl⟩ := exists_eq_of_attemptAll hopened
    split
    · exact ⟨_, _, rfl⟩
    · exact exists_buildWindow_eq _ _

lemma exists_openEvents_eq : ∃ failing, ws.openEvents.2 = { ws with failing := failing } := by
  unfold openEvents
  split
  · exact ⟨_, rfl⟩
  · rename_i opened hopened
    exact exists_eq_of_attempt hopened

/-- A frame that is shown is presented after all others. -/
lemma exists_present_eq (frame : Display) :
    (∃ bad, ws.present frame = (some bad, ws)) ∨ ∃ failing, ws.present frame =
      (none, { ws with
        failing := failing
        presented := ws.presented.push (Texture.upload frame ws.pitch ws.newTexture) }) := by
  unfold present
  split
  · exact .inl ⟨_, rfl⟩
  · rename_i copied hcopied
    obtain ⟨_, rfl⟩ := exists_eq_of_attemptAll hcopied
    exact .inr ⟨_, rfl⟩

end WindowSystem

namespace Session

/-- Saying several things changes the log only. -/
lemma foldl_say (s : Session) (level : Log.Level) (lines : List String) :
    lines.foldl (fun s line => s.say level line) s =
      { s with log := lines.foldl (fun log line => log.write level line) s.log } := by
  induction lines generalizing s with
  | nil => rfl
  | cons line lines ih => exact ih (s.say level line)

lemma inspect_eq (s : Session) :
    ∃ log window, s.inspect = { s with log := log, listingWindow := window } :=
  ⟨_, _, foldl_say _ _ _⟩

@[simp] lemma inspect_machine (s : Session) : s.inspect.machine = s.machine := by
  obtain ⟨_, _, h⟩ := s.inspect_eq
  rw [h]

variable (s : Session)

lemma loadProgram_within (path : String) :
    (Act.loadProgram path).Within s (loadProgram path s).2 := by
  unfold loadProgram
  split
  · exact Act.within_of_sound rfl rfl id _ _
  · dsimp only
    split
    · exact Act.within_of_sound rfl rfl (fun h => h.loadRom _ _) _ _
    · exact Act.within_of_sound rfl rfl (fun h => h.loadRom _ _) _ _

lemma openWindow_within (scale : Nat) : (Act.openWindow scale).Within s (openWindow scale s).2 := by
  have hws : (openWindow scale s).2 =
      { s with windowSystem := (s.windowSystem.openWindow scale).2 } := by
    unfold openWindow
    split <;> rename_i heq <;> rw [heq]
  obtain ⟨_, _, h⟩ := s.windowSystem.exists_openWindow_eq scale
  rw [hws, h]
  exact ⟨rfl, fun _ => rfl, rfl, rfl, rfl, fun _ => rfl, id⟩

lemma openEvents_within : Act.openEvents.Within s (openEvents s).2 := by
  have hws : (openEvents s).2 = { s with windowSystem := s.windowSystem.openEvents.2 } := by
    unfold openEvents
    split <;> rename_i heq <;> rw [heq]
  obtain ⟨_, h⟩ := s.windowSystem.exists_openEvents_eq
  rw [hws, h]
  exact ⟨rfl, fun _ => rfl, rfl, rfl, rfl, fun _ => rfl, id⟩

lemma concludeStart_within : Act.concludeStart.Within s (concludeStart s).2 := by
  unfold concludeStart
  split
  · obtain ⟨_, _, h⟩ := s.inspect_eq
    rw [h]
    exact Act.within_of_sound rfl rfl id _ _
  · exact Act.within_of_sound rfl rfl id _ _

lemma showFrame_within : Act.showFrame.Within s (showFrame s).2 := by
  have hsound : s.machine.Sound → s.machine.takeFrame.2.Sound := fun h => h.takeFrame
  unfold showFrame
  generalize s.machine.takeFrame = taken at hsound ⊢
  rcases taken with ⟨_ | frame, machine⟩
  · exact Act.within_of_sound rfl rfl hsound _ _
  · rcases s.windowSystem.exists_present_eq frame with ⟨_, h⟩ | ⟨_, h⟩
    · simp only [h]
      exact Act.within_of_sound rfl rfl hsound _ _
    · simp only [h]
      exact ⟨rfl, fun _ => rfl, rfl, rfl, rfl, fun hne => absurd rfl hne, hsound⟩

lemma restart_within : (Act.handle .restart).Within s (restart s).2 := by
  unfold restart
  dsimp only
  split
  · exact Act.within_of_sound rfl rfl (fun h => h.reset _) _ _
  · exact Act.within_of_sound rfl rfl (fun h => h.reset _) _ _

lemma saveState_within : (Act.handle .save).Within s (saveState s).2 := by
  unfold saveState
  split
  · exact Act.within_of_sound rfl rfl id _ _
  · exact ⟨rfl, fun hne => absurd rfl hne, rfl, rfl, rfl, fun _ => rfl, id⟩

lemma loadState_within : (Act.handle .load).Within s (loadState s).2 := by
  unfold loadState
  split
  · exact Act.within_of_sound rfl rfl id _ _
  · dsimp only
    split
    · exact Act.within_of_sound rfl rfl (fun h => h.restore _ _) _ _
    · exact Act.within_of_sound rfl rfl (fun h => h.restore _ _) _ _

lemma handle_within (e : Event) : (Act.handle e).Within s (handle e s).2 := by
  have h := handling e
  generalize handle e = f at h ⊢
  cases h with
  | pause =>
      obtain ⟨_, _, h⟩ := inspect_eq { s with paused := true }
      show (Act.handle .pause).Within s { s with paused := true }.inspect
      rw [h]
      exact ⟨rfl, fun _ => rfl, rfl, rfl, rfl, fun _ => rfl, id⟩
  | step => exact ⟨rfl, fun _ => rfl, rfl, rfl, rfl, fun _ => rfl, id⟩
  | resume => exact ⟨rfl, fun _ => rfl, rfl, rfl, rfl, fun _ => rfl, id⟩
  | restart => exact s.restart_within
  | save => exact s.saveState_within
  | load => exact s.loadState_within
  | other he hf =>
      obtain ⟨_, keys, h⟩ := hf s
      have hpausing : (Act.handle e).pausing? = none := Event.pausing?_of_notMem he
      have hstepping : (Act.handle e).stepping? = none := Event.stepping?_of_notMem he
      have hsound : s.machine.Sound → Machine.Sound { s.machine with keys := keys } :=
        fun h => ⟨h.valid, h.prescaler_lt, h.rom_le⟩
      rw [h]
      exact Act.within_of_sound hpausing hstepping hsound _ _

lemma sound_tick {m : Machine} (h : m.Sound) (random : UInt8) (log : Log) :
    (m.tick random log).machine.Sound := by
  have hcpu := h.advanceCpu random log
  rw [Machine.tick]
  split
  · exact hcpu.advanceTimers
  · exact hcpu

lemma advance_within (random : UInt8) : (Act.advance random).Within s (advance random s).2 := by
  unfold advance
  split
  · dsimp only
    split
    · exact Act.within_of_sound rfl rfl (fun h => sound_tick h _ _) _ _
    · exact Act.within_of_sound rfl rfl (fun h => sound_tick h _ _) _ _
  · exact Act.within_of_sound rfl rfl id _ _

lemma concludeStep_within : Act.concludeStep.Within s (concludeStep s).2 := by
  unfold concludeStep
  split
  · obtain ⟨_, _, h⟩ := inspect_eq { s with stepping := false }
    rw [h]
    exact ⟨rfl, fun _ => rfl, rfl, rfl, rfl, fun _ => rfl, id⟩
  · rename_i hstepping
    exact ⟨rfl, fun _ => rfl, rfl, Bool.not_eq_true _ ▸ hstepping, rfl, fun _ => rfl, id⟩

/-- **Every act stays within what it may change.** -/
theorem within_of_goesOn {s t : Session} {a : Act} (h : a.stage s = (.goesOn, t)) :
    a.Within s t := by
  have ht : (a.stage s).2 = t := congrArg Prod.snd h
  rw [← ht]
  cases a with
  | loadProgram path => exact s.loadProgram_within path
  | openWindow scale => exact s.openWindow_within scale
  | openEvents => exact s.openEvents_within
  | concludeStart => exact s.concludeStart_within
  | showFrame => exact s.showFrame_within
  | poll => exact ⟨rfl, fun _ => rfl, rfl, rfl, rfl, fun _ => rfl, id⟩
  | handle event => exact s.handle_within event
  | advance random => exact s.advance_within random
  | concludeStep => exact s.concludeStep_within

/-! ## What acts do to the machine -/

lemma openWindow_machine (scale : Nat) : (openWindow scale s).2.machine = s.machine := by
  unfold openWindow
  split <;> rfl

lemma openEvents_machine : (openEvents s).2.machine = s.machine := by
  unfold openEvents
  split <;> rfl

lemma concludeStart_machine : (concludeStart s).2.machine = s.machine := by
  unfold concludeStart
  split_ifs
  · exact s.inspect_machine
  · rfl

lemma showFrame_state : (showFrame s).2.machine.state = s.machine.state := by
  have hstate := s.machine.takeFrame_state
  unfold showFrame
  generalize s.machine.takeFrame = taken at hstate ⊢
  rcases taken with ⟨_ | frame, machine⟩
  · exact hstate
  · dsimp only
    split <;> exact hstate

lemma saveState_machine : (saveState s).2.machine = s.machine := by
  unfold saveState
  split <;> rfl

/-- A program that is due to be advanced takes its machine through a tick. -/
lemma advance_machine (random : UInt8) : (advance random s).2.machine =
    if !s.paused || s.stepping then (s.machine.tick random s.log).machine else s.machine := by
  unfold advance
  split_ifs
  · dsimp only
    split <;> rfl
  · rfl

lemma concludeStep_machine : (concludeStep s).2.machine = s.machine := by
  unfold concludeStep
  split_ifs
  · exact inspect_machine _
  · rfl

/-! ## Agendas -/

variable {s} {acts : List Act} {t : Session}

lemma stateFile_follow (h : follow acts s = (.goesOn, t)) : t.stateFile = s.stateFile :=
  follow_induction (P := fun u => u.stateFile = s.stateFile)
    (fun _ _ _ _ huv hu => (within_of_goesOn huv).stateFile.trans hu) rfl h

lemma padding_follow (h : follow acts s = (.goesOn, t)) :
    t.windowSystem.padding = s.windowSystem.padding :=
  follow_induction (P := fun u => u.windowSystem.padding = s.windowSystem.padding)
    (fun _ _ _ _ huv hu => (within_of_goesOn huv).padding.trans hu) rfl h

/-- **Until the state is saved, the files stay as they are.** -/
lemma disk_follow (hacts : .handle .save ∉ acts) (h : follow acts s = (.goesOn, t)) :
    t.disk = s.disk :=
  follow_induction (P := fun u => u.disk = s.disk)
    (fun _ ha _ _ huv hu => ((within_of_goesOn huv).disk fun e => hacts (e ▸ ha)).trans hu) rfl h

/-- **No session brings its machine out of bounds.** -/
lemma sound_follow (hs : s.machine.Sound) (h : follow acts s = (.goesOn, t)) : t.machine.Sound :=
  follow_induction (fun _ _ _ _ huv => (within_of_goesOn huv).sound) hs h

end Session

end ChipVm
