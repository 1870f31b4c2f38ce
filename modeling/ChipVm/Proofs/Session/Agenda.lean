import ChipVm.Session
import Mathlib.Tactic.Common

/-!
# The agenda of a session

What a session does is known beforehand, act by act: it reads the program and opens the window, and
then every pass shows the screen, asks for events, handles them one by one, advances the program and
concludes the step.  What is not known beforehand is how far it gets, since an act may end the
session, or fail.

So a moment in a run is given by the acts that have taken place, and the session that they have led
to.  What every act keeps, a run keeps, and this is how everything else is proved about runs.

* `Act`, `Act.stage` — one thing that a session does.
* `Session.agenda`, `Session.follow` — all that a session is to do, and doing it.
* **`Session.run_eq_follow`** — a run follows its agenda.
* **`Session.follow_append_eq_goesOn_iff`** — a moment in a run can be reached in two strides.
* **`Session.follow_induction`** — what every act keeps, following an agenda keeps.
-/

namespace ChipVm

/-- One of the things that a session does. -/
inductive Act where
  | loadProgram (path : String)
  | openWindow (scale : Nat)
  | openEvents
  | concludeStart
  | showFrame
  | poll
  | handle (event : Event)
  | advance (random : UInt8)
  | concludeStep
  deriving DecidableEq

/-- What an act does to a session. -/
def Act.stage : Act → Stage
  | .loadProgram path => Session.loadProgram path
  | .openWindow scale => Session.openWindow scale
  | .openEvents => Session.openEvents
  | .concludeStart => Session.concludeStart
  | .showFrame => Session.showFrame
  | .poll => Session.poll
  | .handle event => Session.handle event
  | .advance random => Session.advance random
  | .concludeStep => Session.concludeStep

/-- The event that an act handles, if it handles one. -/
def Act.event? : Act → Option Event
  | .handle event => some event
  | _ => none

/-- What is done before the first pass. -/
def Options.agenda (options : Options) : List Act :=
  [.loadProgram options.rom, .openWindow options.scale, .openEvents, .concludeStart]

/-- What a pass does up to its last event. -/
def Pass.opening (p : Pass) : List Act := .showFrame :: .poll :: p.events.map .handle

/-- What a pass does. -/
def Pass.agenda (p : Pass) : List Act := p.opening ++ [.advance p.random, .concludeStep]

/-- Handling events is the part of an agenda that handles events. -/
lemma filterMap_event?_handle (events : List Event) :
    (events.map Act.handle).filterMap Act.event? = events := by
  rw [List.filterMap_map]
  exact List.filterMap_some

/-- The events that passes handle are those that come in. -/
lemma filterMap_event?_passes (passes : List Pass) :
    (passes.flatMap Pass.agenda).filterMap Act.event? = passes.flatMap Pass.events := by
  induction passes with
  | nil => rfl
  | cons p passes ih =>
      have hpass : p.agenda.filterMap Act.event? = p.events := by
        rw [Pass.agenda, Pass.opening, List.filterMap_append, List.filterMap_cons_none rfl,
          List.filterMap_cons_none rfl, filterMap_event?_handle]
        exact List.append_nil _
      rw [List.flatMap_cons, List.flatMap_cons, List.filterMap_append, hpass, ih]

namespace Stage

variable {f g : Stage} {s t : Session}

lemma andThen_of_goesOn (h : f s = (.goesOn, t)) (g : Stage) : f.andThen g s = g t := by
  rw [andThen, h]

lemma andThen_eq_goesOn_iff :
    f.andThen g s = (.goesOn, t) ↔ ∃ u, f s = (.goesOn, u) ∧ g u = (.goesOn, t) := by
  rw [andThen]
  rcases f s with ⟨verdict, u⟩
  cases verdict <;> simp

end Stage

namespace Session

/-- All that a session is to do. -/
def agenda (options : Options) (script : List Pass) : List Act :=
  options.agenda ++ (script ++ [lastPass]).flatMap Pass.agenda

/-- Acts one after the other, for as long as the session goes on. -/
def follow : List Act → Stage
  | [] => Stage.skip
  | a :: acts => a.stage.andThen (follow acts)

lemma follow_append (acts later : List Act) :
    follow (acts ++ later) = (follow acts).andThen (follow later) := by
  induction acts with
  | nil => rfl
  | cons a acts ih => rw [List.cons_append, follow, follow, ih, Stage.andThen_assoc]

/-! ## Runs follow their agenda -/

lemma start_eq_follow (options : Options) : start options = follow options.agenda := by
  simp [start, Options.agenda, follow, Act.stage, Stage.andThen_skip]

lemma handleAll_eq_follow (events : List Event) :
    handleAll events = follow (events.map .handle) := by
  induction events with
  | nil => rfl
  | cons event events ih => rw [handleAll, List.map_cons, follow, Act.stage, ih]

lemma update_eq_follow (random : UInt8) :
    update random = follow [.advance random, .concludeStep] := by
  simp [update, follow, Act.stage]

lemma pass_eq_follow (p : Pass) : pass p = follow p.agenda := by
  rw [pass, update_eq_follow, handleAll_eq_follow, prepare, Stage.andThen_assoc showFrame,
    Pass.agenda, follow_append]
  rfl

lemma passes_eq_follow (script : List Pass) :
    passes script = follow (script.flatMap Pass.agenda) := by
  induction script with
  | nil => rfl
  | cons p script ih => rw [passes, List.flatMap_cons, follow_append, pass_eq_follow, ih]

/-- **A run follows its agenda.** -/
theorem run_eq_follow (options : Options) (script : List Pass) :
    run options script = follow (agenda options script) := by
  rw [run, agenda, follow_append, start_eq_follow, passes_eq_follow]

/-! ## Moments in a run -/

variable {acts later : List Act} {a : Act} {s t : Session}

/-- From the session that acts have led to, the rest of the agenda is followed. -/
lemma follow_append_of_goesOn (h : follow acts s = (.goesOn, t)) (later : List Act) :
    follow (acts ++ later) s = follow later t := by
  rw [follow_append, Stage.andThen_of_goesOn h]

/-- **A moment in a run can be reached in two strides.** -/
lemma follow_append_eq_goesOn_iff : follow (acts ++ later) s = (.goesOn, t) ↔
    ∃ u, follow acts s = (.goesOn, u) ∧ follow later u = (.goesOn, t) := by
  rw [follow_append, Stage.andThen_eq_goesOn_iff]

lemma follow_cons_eq_goesOn_iff : follow (a :: acts) s = (.goesOn, t) ↔
    ∃ u, a.stage s = (.goesOn, u) ∧ follow acts u = (.goesOn, t) := by
  rw [follow, Stage.andThen_eq_goesOn_iff]

/-- **What every act keeps, following an agenda keeps.** -/
theorem follow_induction {P : Session → Prop}
    (hstep : ∀ a ∈ acts, ∀ u v, a.stage u = (.goesOn, v) → P u → P v) (hs : P s)
    (h : follow acts s = (.goesOn, t)) : P t := by
  induction acts generalizing s with
  | nil =>
      cases h
      exact hs
  | cons a acts ih =>
      obtain ⟨ha, hacts⟩ := List.forall_mem_cons.mp hstep
      obtain ⟨u, hu, hrest⟩ := follow_cons_eq_goesOn_iff.mp h
      exact ih hacts (ha s u hu hs) hrest

/-! ## A program to run -/

/-- A disk with a program on it that counts in `V0`. -/
def countingDisk : Disk :=
  (Disk.bare ["home"]).put ["count.ch8", "home"] (.file ⟨#[0x70, 0x01, 0x12, 0x00]⟩)

/-- The counting program, waiting to be stepped through. -/
def countingOptions : Options := { Options.standard "count.ch8" with paused := true }

/-- A session before it begins to count. -/
def countingFirst : Session :=
  idle countingOptions countingDisk (WindowSystem.idle 0 none) (Log.atLevel (some .info))

end Session

end ChipVm
