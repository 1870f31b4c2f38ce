import ChipVm.Proofs.Execution.ControlFlow
import ChipVm.Proofs.Execution.Footprint

/-!
# What a run leaves behind

A run goes from state to state, one instruction each, and a program may rewrite itself on the way:
which instruction comes next is known only in the state in which it is executed.  So a run is looked
at through its origins, the states in which its cycles began.  Whatever differs at the end of a run
was changed in one of its cycles, and what a cycle may change is known from its instruction.

* `Run.origins` — the states in which the cycles that succeeded began, and `State.executed` — their
  instructions.
* **`State.exists_origin_of_ne`** — what differs after a run was changed by one of its cycles.
* **`State.effects_confined`** — what each word may change and where it leads, and that a byte of
  memory differs after a run only if an instruction was executed that stored to it.
-/

namespace ChipVm

namespace Run

/-- The states in which the cycles of a run from `start` began, those that succeeded. -/
def origins (start : State) (r : Run) : List State := (start :: r.states).dropLast

@[simp] lemma origins_of_states_nil (start : State) (fault : Option Fault) :
    Run.origins start ⟨[], fault⟩ = [] := rfl

@[simp] lemma origins_cons (start next : State) (r : Run) :
    (r.cons next).origins start = start :: r.origins next := rfl

@[simp] lemma last_of_states_nil (start : State) (fault : Option Fault) :
    Run.last start ⟨[], fault⟩ = start := rfl

@[simp] lemma last_cons (start next : State) (r : Run) :
    (r.cons next).last start = r.last next := by
  simp [last, cons, List.getLast?_cons]

lemma states_eq_dropLast_append (start : State) {r : Run} (h : r.states ≠ []) :
    r.states = r.states.dropLast ++ [r.last start] := by
  rw [last, List.getLast?_eq_some_getLast h]
  exact (List.dropLast_append_getLast h).symm

end Run

namespace State

variable {s t : State} {input : Input} {inputs : List Input}

/-- The instruction that the program counter points at, if it is one. -/
def instruction? (s : State) : Option Instruction := Instruction.ofWord? s.fetch

/-- The instructions that were executed in a run, in order. -/
def executed (s : State) (inputs : List Input) : List Instruction :=
  ((s.run inputs).origins s).filterMap instruction?

lemma run_of_ok (h : s.cycle input = .ok t) (inputs : List Input) :
    s.run (input :: inputs) = (t.run inputs).cons t := by
  rw [run, h]

lemma run_of_error {fault : Fault} (h : s.cycle input = .error fault) (inputs : List Input) :
    s.run (input :: inputs) = ⟨[], some fault⟩ := by
  rw [run, h]

lemma count_executed_cons (h : s.cycle input = .ok t) (inputs : List Input) (ins : Instruction) :
    (s.executed (input :: inputs)).count ins =
      (t.executed inputs).count ins + if s.instruction? = some ins then 1 else 0 := by
  rw [executed, run_of_ok h, Run.origins_cons, List.filterMap_cons]
  rcases s.instruction? with _ | other
  · rfl
  · simp [List.count_cons, executed]

/-- **What differs after a run was changed by one of its cycles.** -/
theorem exists_origin_of_ne {α : Type} (f : State → α) (h : f ((s.run inputs).last s) ≠ f s) :
    ∃ u ∈ (s.run inputs).origins s, ∃ input t, u.cycle input = .ok t ∧ f t ≠ f u := by
  induction inputs generalizing s with
  | nil => exact absurd rfl h
  | cons input inputs ih =>
      rcases hcycle : s.cycle input with fault | next
      · rw [run_of_error hcycle] at h
        exact absurd rfl h
      · rw [run_of_ok hcycle, Run.last_cons] at h
        rw [run_of_ok hcycle, Run.origins_cons]
        by_cases hnext : f next = f s
        · obtain ⟨u, hu, hchange⟩ := ih (hnext ▸ h)
          exact ⟨u, List.mem_cons_of_mem s hu, hchange⟩
        · exact ⟨s, List.mem_cons_self, input, next, hcycle, hnext⟩

lemma exists_covers_of_ne {a : UInt16}
    (h : ((s.run inputs).last s).memory.read a ≠ s.memory.read a) :
    ∃ u ∈ (s.run inputs).origins s, ∃ ins : Instruction,
      ins.pattern.Fits u.fetch ∧ ins.Covers u.fetch u (cell a) := by
  obtain ⟨u, hu, input, t, hcycle, hchange⟩ := exists_origin_of_ne (fun s => s.memory.read a) h
  obtain ⟨ins, hfits, hexecute⟩ := exists_execute_of_obey hcycle
  exact ⟨u, hu, ins, hfits, (Instruction.execute_within hexecute).memory a hchange⟩

/-- **Effects are confined.**  A word that is obeyed changes no more than its instruction may and
goes on where its instruction leads, and the two forms of a skip decide oppositely.  After a run, a
byte of memory differs only if one of the executed instructions stored to it. -/
theorem effects_confined :
    (∀ (s t : State) (w : Word) (input : Input), s.obey w input = .ok t →
      ∃ ins : Instruction, ins.pattern.Fits w ∧ ins.Within w s t ∧ ins.LeadsTo w input s t.pc) ∧
    (∀ a b : Instruction, a.opposite? = some b → ∀ w u : Word,
      a.pattern.Fits w → b.pattern.Fits u → a.shape.Agree w u → ∀ (input : Input) (s : State),
        ∃ t t', s.obey w input = .ok t ∧ s.obey u input = .ok t' ∧
          (t.pc = wrapAddress (s.pc + 4) ∧ t'.pc = wrapAddress (s.pc + 2) ∨
            t.pc = wrapAddress (s.pc + 2) ∧ t'.pc = wrapAddress (s.pc + 4))) ∧
    ∀ (s : State) (inputs : List Input) (a : UInt16),
      ((s.run inputs).last s).memory.read a ≠ s.memory.read a →
        ∃ u ∈ (s.run inputs).origins s, ∃ ins : Instruction,
          ins.pattern.Fits u.fetch ∧ ins.Covers u.fetch u (cell a) := by
  refine ⟨fun s t w input h => ?_, fun a b h w u hw hu hagree => obey_opposite h hw hu hagree,
    fun s inputs a => exists_covers_of_ne⟩
  obtain ⟨ins, hfits, hexecute⟩ := exists_execute_of_obey h
  exact ⟨ins, hfits, Instruction.execute_within hexecute, Instruction.execute_leadsTo hexecute⟩

end State

end ChipVm
