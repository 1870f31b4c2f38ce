import ChipVm.Cycle

/-!
# Runs

A run is one cycle after the other, each with its own keys and its own random byte.  It comes to an
end when the inputs are used up or when a cycle fails; a cycle that fails leaves no state, so the
last state of the run is the last good one.

* `Run` — the states after each cycle, and the fault at the end, if there is one.
* `State.run`, `State.runTraced` — a run from a state, without and with a tracer.
* `Run.last` — where a run ends.
* **`State.runTraced_fst`** — no tracer changes a run.
* **`State.run_append`** — a run that does not fail can be continued.
-/

namespace ChipVm

/-- What a run goes through. -/
structure Run where
  /-- The state after each cycle that succeeded, in order. -/
  states : List State
  /-- Why the run ended early, if it did. -/
  fault : Option Fault

namespace Run

/-- A run without a cycle. -/
def empty : Run := ⟨[], none⟩

/-- A run with one more state in front. -/
def cons (s : State) (r : Run) : Run := ⟨s :: r.states, r.fault⟩

/-- The state that a run from `start` ends in. -/
def last (start : State) (r : Run) : State := r.states.getLast?.getD start

end Run

namespace State

variable {σ : Type}

/-- The run from a state with the given inputs. -/
def run (s : State) : List Input → Run
  | [] => Run.empty
  | input :: inputs =>
      match s.cycle input with
      | .ok next => (next.run inputs).cons next
      | .error fault => ⟨[], some fault⟩

/-- The run from a state with the given inputs, told to a tracer. -/
def runTraced (s : State) (t : Tracer σ) (gathered : σ) : List Input → Run × σ
  | [] => (Run.empty, gathered)
  | input :: inputs =>
      match s.cycleTraced input t gathered with
      | (.ok next, gathered) =>
          let rest := next.runTraced t gathered inputs
          (rest.1.cons next, rest.2)
      | (.error fault, gathered) => (⟨[], some fault⟩, gathered)

/-- **No tracer changes a run.** -/
theorem runTraced_fst (s : State) (t : Tracer σ) (gathered : σ) (inputs : List Input) :
    (s.runTraced t gathered inputs).1 = s.run inputs := by
  induction inputs generalizing s gathered with
  | nil => rfl
  | cons input rest ih =>
      have hfst := cycleTraced_fst s input t gathered
      rw [runTraced, run, ← hfst]
      rcases s.cycleTraced input t gathered with ⟨result, gathered'⟩
      cases result with
      | ok next => simp [ih]
      | error fault => rfl

/-- **A run that does not fail can be continued** from where it ends. -/
theorem run_append (s : State) (inputs later : List Input) (h : (s.run inputs).fault = none) :
    s.run (inputs ++ later) =
      ⟨(s.run inputs).states ++ (((s.run inputs).last s).run later).states,
        (((s.run inputs).last s).run later).fault⟩ := by
  induction inputs generalizing s with
  | nil => rfl
  | cons input rest ih =>
      rw [List.cons_append]
      simp only [run] at h ⊢
      cases hc : s.cycle input with
      | error fault => simp [hc] at h
      | ok next =>
          simp only [hc] at h
          have hlast : ((next.run rest).cons next).last s = (next.run rest).last next := by
            simp [Run.last, Run.cons, List.getLast?_cons]
          simp only [hlast]
          rw [ih next h]
          rfl

end State

end ChipVm
