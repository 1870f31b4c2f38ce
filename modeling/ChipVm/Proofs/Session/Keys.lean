import ChipVm.Proofs.Machine.Driving
import ChipVm.Proofs.Machine.Failures
import ChipVm.Proofs.Session.Pausing
import Mathlib.Data.List.DropRight

/-!
# The keys that a program sees

A program sees exactly the keys that are held.  A key of the keypad is moved by the events of the
host key that stands for it, and by no others, and all keys are free when the program is started or
started over.  Nothing else that a session does touches them: not saving and loading, although they
take the rest of the machine away and bring it back, and neither pausing nor stepping.

* `Event.moves?` — what an event does to a key, and `Session.movements` — what was done to it since
  the program was started over last.
* `Session.isDown_of_goesOn` — what each act makes of a key.
* **`Session.held_keys_seen`** — which keys an instruction sees in a run.
-/

namespace ChipVm

namespace Event

/-- Space goes down: the program runs as fast as it can. -/
abbrev hurry : Event := .keyDown (some .space)

/-- Space comes up: the program runs at its usual speed. -/
abbrev relax : Event := .keyUp (some .space)

/-- The events that have to do with how the program goes on and where its state is kept. -/
def controls : List Event := [save, load, pause, resume, step, hurry, relax]

/-- Whether a key goes down or comes up by an event, if it is one of the host key that stands for
it. -/
def moves? (k : Fin keyCount) : Event → Option Bool
  | .keyDown (some key) => if key.keypad?.map keyOf = some k then some true else none
  | .keyUp (some key) => if key.keypad?.map keyOf = some k then some false else none
  | _ => none

/-- Whether a key is down after an event, if the event decides about it. -/
def settles? (k : Fin keyCount) (e : Event) : Option Bool :=
  if e = restart then some false else e.moves? k

lemma moves?_of_mem_controls {e : Event} (he : e ∈ controls) (k : Fin keyCount) :
    e ≠ restart ∧ e.moves? k = none := by
  simp only [controls, List.mem_cons, List.not_mem_nil, or_false] at he
  rcases he with rfl | rfl | rfl | rfl | rfl | rfl | rfl <;> exact ⟨nofun, rfl⟩

/-- The events of a host key do nothing to the keys for which it does not stand. -/
lemma moves?_of_keypad? {e : Event} {key : HostKey} {b : UInt8} {k : Fin keyCount}
    (he : e = .keyDown (some key) ∨ e = .keyUp (some key)) (hkey : key.keypad? = some b)
    (hb : keyOf b ≠ k) : e ≠ restart ∧ e.moves? k = none := by
  have hne : key.keypad?.map keyOf ≠ some k := by simpa [hkey] using hb
  rcases he with rfl | rfl
  · refine ⟨?_, if_neg hne⟩
    rintro ⟨rfl⟩
    cases hkey
  · exact ⟨nofun, if_neg hne⟩

end Event

namespace Session

variable {s t : Session} {k : Fin keyCount}

/-! ## Events -/

lemma loadState_keys (s : Session) : (loadState s).2.machine.keys = s.machine.keys := by
  unfold loadState Machine.restore
  rcases s.disk.readText s.stateFile with fault | text
  · rfl
  · dsimp only
    rcases State.restore text with fault | state <;> rfl

lemma keys_command {key : HostKey} (hkey : key ≠ .backspace) (s : Session) :
    (command key s).2.machine.keys = s.machine.keys := by
  unfold command
  split
  · rfl
  · exact congrArg Machine.keys (inspect_machine _)
  · rfl
  · rfl
  · exact absurd rfl hkey
  · exact congrArg Machine.keys s.saveState_machine
  · exact s.loadState_keys
  · rfl

/-- **Only the events of its host key move a key.** -/
lemma isDown_handle_of_not_moves {e : Event} (he : e ≠ .restart) (hk : e.moves? k = none)
    (s : Session) : (handle e s).2.machine.keys.isDown k = s.machine.keys.isDown k := by
  match e with
  | .quit | .other | .keyDown none | .keyUp none => rfl
  | .keyDown (some key) =>
      rw [handle]
      rcases hkey : key.keypad? with _ | b
      · rw [keys_command fun h => he (by rw [h])]
      · have hb : keyOf b ≠ k := by simpa [Event.moves?, hkey] using hk
        exact (s.machine.keys.isDown_press b k).trans (if_neg hb)
  | .keyUp (some key) =>
      rw [handle]
      rcases hkey : key.keypad? with _ | b
      · rfl
      · have hb : keyOf b ≠ k := by simpa [Event.moves?, hkey] using hk
        exact (s.machine.keys.isDown_release b k).trans (if_neg hb)

/-- An event of its host key moves a key. -/
lemma isDown_handle_of_moves {e : Event} {down : Bool} (hk : e.moves? k = some down)
    (s : Session) : (handle e s).2.machine.keys.isDown k = down := by
  match e with
  | .quit | .other | .keyDown none | .keyUp none => cases hk
  | .keyDown (some key) =>
      simp only [Event.moves?, Option.ite_none_right_eq_some] at hk
      obtain ⟨hkey, hdown⟩ := hk
      obtain ⟨b, hb, rfl⟩ := Option.map_eq_some_iff.mp hkey
      simp only [handle, hb]
      rw [← Option.some.inj hdown]
      exact (s.machine.keys.isDown_press b _).trans (if_pos rfl)
  | .keyUp (some key) =>
      simp only [Event.moves?, Option.ite_none_right_eq_some] at hk
      obtain ⟨hkey, hdown⟩ := hk
      obtain ⟨b, hb, rfl⟩ := Option.map_eq_some_iff.mp hkey
      simp only [handle, hb]
      rw [← Option.some.inj hdown]
      exact (s.machine.keys.isDown_release b _).trans (if_pos rfl)

/-- A program that is taken in begins with all keys free. -/
lemma isDown_of_loadRom {m : Machine} {rom : List UInt8} {log : Log}
    (h : (m.loadRom rom log).answer = .ok ()) (k : Fin keyCount) :
    (m.loadRom rom log).machine.keys.isDown k = false := by
  rw [Machine.isDown_loadRom, h]

lemma isDown_restart (h : restart s = (.goesOn, t)) (k : Fin keyCount) :
    t.machine.keys.isDown k = false := by
  unfold restart Machine.reset at h
  dsimp only at h
  split at h
  · cases h
  · rename_i hanswer
    cases h
    exact isDown_of_loadRom hanswer k

lemma isDown_handle {e : Event} (h : handle e s = (.goesOn, t)) (k : Fin keyCount) :
    t.machine.keys.isDown k = (e.settles? k).getD (s.machine.keys.isDown k) := by
  have ht : (handle e s).2 = t := congrArg Prod.snd h
  rw [Event.settles?]
  split_ifs with he
  · obtain rfl := he
    exact isDown_restart h k
  · rcases hk : e.moves? k with _ | down
    · exact ht ▸ isDown_handle_of_not_moves he hk s
    · exact ht ▸ isDown_handle_of_moves hk s

/-! ## Acts -/

lemma isDown_loadProgram {path : String} (h : loadProgram path s = (.goesOn, t))
    (k : Fin keyCount) : t.machine.keys.isDown k = false := by
  unfold loadProgram at h
  split at h
  · cases h
  · dsimp only at h
    split at h
    · cases h
    · rename_i hanswer
      cases h
      exact isDown_of_loadRom hanswer k

lemma showFrame_keys (s : Session) : (showFrame s).2.machine.keys = s.machine.keys := by
  have hkeys : s.machine.takeFrame.2.keys = s.machine.keys := by
    rw [Machine.takeFrame]
    split_ifs <;> rfl
  unfold showFrame
  generalize s.machine.takeFrame = taken at hkeys ⊢
  rcases taken with ⟨_ | frame, machine⟩
  · exact hkeys
  · dsimp only
    split <;> exact hkeys

/-- What comes of an instruction that is due: the machine does what the cycle does with the keys
that are held. -/
lemma exists_advance_eq (hdue : s.paused = false ∨ s.stepping = true) (random : UInt8) :
    ∃ log, advance random s =
      match s.machine.state.cycle ⟨s.machine.keys, random⟩ with
      | .ok next => (.goesOn, { s with
          machine := Machine.advanceTimers { s.machine with
            state := next
            frameDue := s.machine.frameDue || decide (next.display ≠ s.machine.state.display) }
          log := log })
      | .error fault => (.failed (.machine fault), { s with log := log }) := by
  have hrunning : (!s.paused || s.stepping) = true := by simpa using hdue
  obtain ⟨log, hcpu⟩ := s.machine.exists_advanceCpu_eq random s.log
  refine ⟨log, ?_⟩
  rw [advance, if_pos hrunning, Machine.tick, hcpu]
  rcases s.machine.state.cycle ⟨s.machine.keys, random⟩ with fault | next <;> rfl

lemma advanceTimers_keys (m : Machine) : m.advanceTimers.keys = m.keys := by
  rw [Machine.advanceTimers]
  split_ifs <;> rfl

lemma advance_keys (random : UInt8) (s : Session) :
    (advance random s).2.machine.keys = s.machine.keys := by
  by_cases hdue : s.paused = false ∨ s.stepping = true
  · obtain ⟨log, hadvance⟩ := exists_advance_eq hdue random
    rw [hadvance]
    rcases s.machine.state.cycle ⟨s.machine.keys, random⟩ with fault | next
    · rfl
    · exact advanceTimers_keys _
  · rw [not_or, Bool.not_eq_false, Bool.not_eq_true] at hdue
    rw [advance_of_waiting hdue.1 hdue.2]

end Session

/-- Whether a key is down after an act, if the act decides about it. -/
def Act.settles? (k : Fin keyCount) : Act → Option Bool
  | .loadProgram _ => some false
  | .handle e => e.settles? k
  | _ => none

namespace Session

variable {s t : Session} {k : Fin keyCount}

/-- **What each act makes of a key.** -/
lemma isDown_of_goesOn {a : Act} (h : a.stage s = (.goesOn, t)) (k : Fin keyCount) :
    t.machine.keys.isDown k = (a.settles? k).getD (s.machine.keys.isDown k) := by
  have ht : (a.stage s).2 = t := congrArg Prod.snd h
  have hkept (hkeys : (a.stage s).2.machine.keys = s.machine.keys) :
      t.machine.keys.isDown k = s.machine.keys.isDown k := by rw [← ht, hkeys]
  cases a with
  | loadProgram path => exact isDown_loadProgram h k
  | handle e => exact isDown_handle h k
  | openWindow scale => exact hkept (congrArg Machine.keys (s.openWindow_machine scale))
  | openEvents => exact hkept (congrArg Machine.keys s.openEvents_machine)
  | concludeStart => exact hkept (congrArg Machine.keys s.concludeStart_machine)
  | showFrame => exact hkept s.showFrame_keys
  | poll => exact hkept rfl
  | advance random => exact hkept (advance_keys random s)
  | concludeStep => exact hkept (congrArg Machine.keys s.concludeStep_machine)

/-! ## Runs -/

/-- What was done to a key since the program was started over last, oldest first: whether the key
went down or came up. -/
def movements (k : Fin keyCount) (events : List Event) : List Bool :=
  (events.rtakeWhile (· ≠ .restart)).filterMap (Event.moves? k)

lemma movements_concat (k : Fin keyCount) (events : List Event) (e : Event) :
    movements k (events ++ [e]) =
      if e = .restart then [] else movements k events ++ (e.moves? k).toList := by
  rw [movements, List.rtakeWhile_concat]
  by_cases he : e = .restart
  · simp [he]
  · rw [if_pos (decide_eq_true he), if_neg he, List.filterMap_append, movements]
    rcases hk : e.moves? k with _ | down <;> simp [hk]

/-- **A key is down if the last thing that was done to it was to press it.** -/
lemma latest_settles_iff (k : Fin keyCount) (events : List Event) :
    latest (Event.settles? k) false events = true ↔
      (movements k events).getLast? = some true := by
  induction events using List.reverseRecOn with
  | nil => simp [movements]
  | append_singleton events e ih =>
      rw [latest_append, latest_cons, latest_nil, movements_concat, Event.settles?]
      split_ifs with he
      · simp
      · rcases e.moves? k with _ | down
        · simpa using ih
        · simp

variable {options : Options} {disk : Disk} {ws : WindowSystem} {log : Log} {done : List Pass}
  {p : Pass}

/-- What is done in a run until the events of a pass are handled. -/
def untilHandled (options : Options) (done : List Pass) (p : Pass) : List Act :=
  untilPoll options done ++ p.events.map .handle

lemma settles?_eq_bind {a : Act} (ha : ∀ path, a ≠ .loadProgram path) :
    a.settles? k = a.event?.bind (Event.settles? k) := by
  cases a with
  | loadProgram path => exact absurd rfl (ha path)
  | _ => rfl

/-- Of the acts that are done until then, those that decide about a key are the events. -/
lemma latest_settles_untilHandled (k : Fin keyCount) (before : Bool) :
    latest (Act.settles? k) before (untilHandled options done p) =
      latest (Event.settles? k) false (done.flatMap Pass.events ++ p.events) := by
  have hrest : ∀ a ∈ done.flatMap Pass.agenda ++ [Act.showFrame, .poll] ++ p.events.map .handle,
      a.settles? k = a.event?.bind (Event.settles? k) := by
    refine fun a ha => settles?_eq_bind ?_
    rintro path rfl
    simp [Pass.agenda, Pass.opening] at ha
  have hevents : (done.flatMap Pass.agenda ++ [Act.showFrame, .poll] ++
      p.events.map Act.handle).filterMap Act.event? = done.flatMap Pass.events ++ p.events := by
    rw [List.filterMap_append, List.filterMap_append, filterMap_event?_passes,
      filterMap_event?_handle]
    exact congrArg (· ++ p.events) (List.append_nil _)
  rw [untilHandled, untilPoll, List.append_assoc, latest_append, latest_filterMap Act.event? hrest,
    hevents]
  rfl

/-- **Which keys are down in a run.** -/
lemma isDown_untilHandled
    (hs : follow (untilHandled options done p) (idle options disk ws log) = (.goesOn, s))
    (k : Fin keyCount) : s.machine.keys.isDown k = true ↔
      (movements k (done.flatMap Pass.events ++ p.events)).getLast? = some true := by
  rw [latest_follow (fun _ _ _ huv => isDown_of_goesOn huv k) hs, latest_settles_untilHandled]
  exact latest_settles_iff k _

/-- **A program sees the keys that are held.**  The events of a pass have been handled, and the run
goes on with the instruction, if one is due.  What comes of the instruction is what the cycle makes
of the state and the keys of the machine at this moment.

A key is down among them if and only if, since the program was started or started over last, its
host key was pressed or released, and the last time it was pressed.  Saving and loading, pausing,
going on and stepping, and running fast leave all keys as they are, and so do the events of other
host keys that stand for keys of the keypad. -/
theorem held_keys_seen (rest : List Pass)
    (hs : follow (untilHandled options done p) (idle options disk ws log) = (.goesOn, s)) :
    run options (done ++ p :: rest) (idle options disk ws log) =
      ((update p.random).andThen (passes (rest ++ [lastPass]))) s ∧
    (s.paused = false ∨ s.stepping = true → ∃ log, advance p.random s =
      match s.machine.state.cycle ⟨s.machine.keys, p.random⟩ with
      | .ok next => (.goesOn, { s with
          machine := Machine.advanceTimers { s.machine with
            state := next
            frameDue := s.machine.frameDue || decide (next.display ≠ s.machine.state.display) }
          log := log })
      | .error fault => (.failed (.machine fault), { s with log := log })) ∧
    ∀ k : Fin keyCount,
      (s.machine.keys.isDown k = true ↔
        (movements k (done.flatMap Pass.events ++ p.events)).getLast? = some true) ∧
      (∀ e ∈ Event.controls, ∀ t : Session,
        (handle e t).2.machine.keys.isDown k = t.machine.keys.isDown k) ∧
      ∀ (key : HostKey) (b : UInt8) (e : Event), e = .keyDown (some key) ∨ e = .keyUp (some key) →
        key.keypad? = some b → keyOf b ≠ k → ∀ t : Session,
          (handle e t).2.machine.keys.isDown k = t.machine.keys.isDown k := by
  refine ⟨?_, fun hdue => exists_advance_eq hdue p.random, fun k => ⟨isDown_untilHandled hs k,
    fun e he t => ?_, fun key b e he hkey hb t => ?_⟩⟩
  · obtain ⟨u, hu, hhandled⟩ := follow_append_eq_goesOn_iff.mp hs
    exact run_of_handled hu hhandled
  · obtain ⟨hrestart, hmoves⟩ := Event.moves?_of_mem_controls he k
    exact isDown_handle_of_not_moves hrestart hmoves t
  · obtain ⟨hrestart, hmoves⟩ := Event.moves?_of_keypad? he hkey hb
    exact isDown_handle_of_not_moves hrestart hmoves t

/-- A pass in which keys are pressed before the program is started over, and others after that. -/
def pressingPass : Pass :=
  ⟨[.keyDown (some (.char '1')), .restart, .keyDown (some (.char 'Q')),
    .keyDown (some (.char 'W'))], 0⟩

/-- A pass in which one of these is released again, and the program is stepped through. -/
def releasingPass : Pass := ⟨[.keyUp (some (.char 'W')), .step], 0⟩

/-- In the second of these passes the counting program executes an instruction, and of the three
keys it sees only that of `Q`. -/
theorem held_keys_seen_counting :
    let s := (follow (untilHandled countingOptions [pressingPass] releasingPass) countingFirst).2
    follow (untilHandled countingOptions [pressingPass] releasingPass) countingFirst =
        (.goesOn, s) ∧
      s.stepping = true ∧
      s.machine.keys.isDown (keyOf 4) = true ∧ s.machine.keys.isDown (keyOf 1) = false ∧
      s.machine.keys.isDown (keyOf 5) = false ∧
      (handle .load s).2.machine.keys.isDown (keyOf 4) = true ∧
      (handle (.keyUp (some (.char '1'))) s).2.machine.keys.isDown (keyOf 4) = true ∧
      ∃ log next, s.machine.state.cycle ⟨s.machine.keys, 0⟩ = .ok next ∧
        advance 0 s = (.goesOn, { s with
          machine := Machine.advanceTimers { s.machine with
            state := next
            frameDue := s.machine.frameDue || decide (next.display ≠ s.machine.state.display) }
          log := log }) := by
  intro s
  have hs : follow (untilHandled countingOptions [pressingPass] releasingPass) countingFirst =
      (.goesOn, s) := Prod.ext (by decide +kernel) rfl
  have hstepping : s.stepping = true := by decide +kernel
  obtain ⟨-, hadvance, hkeys⟩ := held_keys_seen [] hs
  obtain ⟨hdown, hcontrols, hothers⟩ := hkeys (keyOf 4)
  have hheld : s.machine.keys.isDown (keyOf 4) = true := hdown.mpr (by decide)
  have hfree : ∀ k : Fin keyCount, ¬ (movements k (pressingPass.events ++
      releasingPass.events)).getLast? = some true → s.machine.keys.isDown k = false :=
    fun k hk => Bool.not_eq_true _ ▸ fun h => hk ((hkeys k).1.mp h)
  refine ⟨hs, hstepping, hheld, hfree (keyOf 1) (by decide), hfree (keyOf 5) (by decide),
    ?_, ?_, ?_⟩
  · rw [hcontrols .load (by decide), hheld]
  · rw [hothers (.char '1') 1 _ (.inr rfl) (by decide) (by decide), hheld]
  · obtain ⟨log, h⟩ := hadvance (.inr hstepping)
    rcases hcycle : s.machine.state.cycle ⟨s.machine.keys, 0⟩ with fault | next
    · have hok : (s.machine.state.cycle ⟨s.machine.keys, 0⟩).isOk = true := by decide +kernel
      rw [hcycle] at hok
      cases hok
    · have hrandom : releasingPass.random = 0 := rfl
      rw [hrandom, hcycle] at h
      exact ⟨log, next, rfl, h⟩

end Session

end ChipVm
