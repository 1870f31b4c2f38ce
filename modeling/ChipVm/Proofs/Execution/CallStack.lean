import ChipVm.Proofs.Execution.Trail

/-!
# Calls and returns

A call leaves the address after it on the stack, and the matching return takes it off again.  What
lies between the two is any program whatever: other calls and returns, jumps, instructions that
rewrite the program.  None of them reaches below the return address without taking it off, and this
is the invariant that carries through the run: as long as the stack is not back at its old height,
the old stack with the return address on top of it is still there, at the bottom of the present one.

* `State.StackStep` — what a cycle does to the stack.
* **`State.StackStep.keeps_or_returns`** — a cycle leaves the bottom of the stack alone, or it is
  the matching return.
* **`State.calls_bracketed`** — a call comes back to the word after it with the stack it was made
  with, and the height of the stack counts the calls that are still open.
-/

namespace ChipVm

namespace State

variable {s t : State} {input : Input} {inputs : List Input}

/-! ## One cycle -/

/-- What a cycle that leads from `s` to `t` does to the stack. -/
inductive StackStep (s t : State) : Prop
  | call (hins : s.instruction? = some .call) (hstack : t.stack = wrapAddress (s.pc + 2) :: s.stack)
  | ret (hins : s.instruction? = some .ret) (hstack : s.stack = t.pc :: t.stack)
  | other (hcall : s.instruction? ≠ some .call) (hret : s.instruction? ≠ some .ret)
      (hstack : t.stack = s.stack)

lemma stack_of_execute_call {w : Word} (h : Instruction.call.execute w input s = .ok t) :
    t.stack = wrapAddress (s.pc + 2) :: s.stack := by
  obtain rfl := Except.ok.inj h
  rfl

lemma stack_of_execute_ret {w : Word} (h : Instruction.ret.execute w input s = .ok t) :
    s.stack = t.pc :: t.stack := by
  rw [Instruction.execute, Instruction.act] at h
  split at h
  · cases h
  · rename_i hstack
    obtain rfl := Except.ok.inj h
    exact hstack

/-- A call does not fail. -/
lemma exists_cycle_of_call (h : Instruction.call.pattern.Fits s.fetch) (input : Input) :
    ∃ t, s.cycle input = .ok t ∧ t.stack = wrapAddress (s.pc + 2) :: s.stack :=
  ⟨_, obey_of_fits h, rfl⟩

lemma stackStep_of_cycle (h : s.cycle input = .ok t) : StackStep s t := by
  obtain ⟨ins, hfits, hexecute⟩ := exists_execute_of_obey h
  have hins : s.instruction? = some ins := Instruction.ofWord?_of_fits hfits
  by_cases hcall : ins = .call
  · subst hcall
    exact .call hins (stack_of_execute_call hexecute)
  by_cases hret : ins = .ret
  · subst hret
    exact .ret hins (stack_of_execute_ret hexecute)
  · have hstack : t.stack = s.stack := by
      by_contra hne
      exact ((Instruction.execute_within hexecute).stack hne).elim hcall hret
    exact .other (by simp [hins, hcall]) (by simp [hins, hret]) hstack

/-- **A cycle leaves the bottom of the stack alone, or it is the matching return.** -/
theorem StackStep.keeps_or_returns {a : UInt16} {outer : List UInt16} (h : StackStep s t)
    (hs : (a :: outer) <:+ s.stack) :
    (a :: outer) <:+ t.stack ∨ s.instruction? = some .ret ∧ t.stack = outer ∧ t.pc = a := by
  cases h with
  | call hins hstack =>
      left
      rw [hstack]
      exact hs.trans (List.suffix_cons _ _)
  | ret hins hstack =>
      rw [hstack, List.suffix_cons_iff] at hs
      rcases hs with htop | hbelow
      · obtain ⟨rfl, rfl⟩ := List.cons.inj htop
        exact .inr ⟨hins, rfl, rfl⟩
      · exact .inl hbelow
  | other hcall hret hstack =>
      left
      rwa [hstack]

/-! ## Runs -/

/-- With an open call at the bottom of the stack, the first state of a run in which the stack is
lower than that is where the call comes back to. -/
lemma returns_of_states {a : UInt16} {outer : List UInt16} {inner : List State}
    (hs : (a :: outer) <:+ s.stack) (hstates : (s.run inputs).states = inner ++ [t])
    (hinner : ∀ r ∈ inner, r.stack.length ≠ outer.length) (ht : t.stack.length = outer.length) :
    (∃ u input, (s :: inner).getLast? = some u ∧ u.cycle input = .ok t ∧
      u.instruction? = some .ret) ∧ t.stack = outer ∧ t.pc = a := by
  induction inputs generalizing s inner with
  | nil => simp [run, Run.empty] at hstates
  | cons input inputs ih =>
      rcases hcycle : s.cycle input with fault | next
      · simp [run_of_error hcycle] at hstates
      · have hstep := (stackStep_of_cycle hcycle).keeps_or_returns hs
        rw [run_of_ok hcycle] at hstates
        cases inner with
        | nil =>
            obtain ⟨rfl, -⟩ := List.cons.inj hstates
            rcases hstep with hkeeps | ⟨hins, hstack, hpc⟩
            · -- The call is still open, so the stack is too high.
              have hle := hkeeps.length_le
              rw [List.length_cons] at hle
              omega
            · exact ⟨⟨s, input, rfl, hcycle, hins⟩, hstack, hpc⟩
        | cons r inner =>
            obtain ⟨rfl, hrest⟩ := List.cons.inj hstates
            obtain ⟨hnext, hinner⟩ := List.forall_mem_cons.mp hinner
            rcases hstep with hkeeps | ⟨-, hstack, -⟩
            · rw [List.getLast?_cons_cons]
              exact ih hkeeps hrest hinner
            · exact absurd (congrArg List.length hstack) hnext

/-- The height of the stack counts the open calls. -/
lemma length_stack_run (s : State) (inputs : List Input) :
    (((s.run inputs).last s).stack.length : Int) =
      s.stack.length + (s.executed inputs).count .call - (s.executed inputs).count .ret := by
  induction inputs generalizing s with
  | nil => simp [executed, run, Run.empty]
  | cons input inputs ih =>
      rcases hcycle : s.cycle input with fault | next
      · simp [executed, run_of_error hcycle]
      · rw [run_of_ok hcycle, Run.last_cons, ih next, count_executed_cons hcycle,
          count_executed_cons hcycle]
        cases stackStep_of_cycle hcycle with
        | call hins hstack | ret hins hstack =>
            simp only [hins, hstack, List.length_cons, Option.some.injEq, reduceCtorEq, ↓reduceIte]
            omega
        | other hcall hret hstack => simp [hcall, hret, hstack]

/-- **Calls and returns are bracketed.**  After a call, the first state in which the stack is back
at its old height was made by a return; the stack is then what it was before the call, and the
program goes on at the word after the call.  In every run the height of the stack changes by the
number of calls less the number of returns. -/
theorem calls_bracketed :
    (∀ (s t : State) (inputs : List Input) (inner : List State),
      Instruction.call.pattern.Fits s.fetch → (s.run inputs).states = inner ++ [t] →
      (∀ r ∈ inner, r.stack.length ≠ s.stack.length) → t.stack.length = s.stack.length →
        (∃ u input, (s :: inner).getLast? = some u ∧ u.cycle input = .ok t ∧
          Instruction.ret.pattern.Fits u.fetch) ∧
        t.stack = s.stack ∧ t.pc = wrapAddress (s.pc + 2)) ∧
    ∀ (s : State) (inputs : List Input),
      (((s.run inputs).last s).stack.length : Int) =
        s.stack.length + (s.executed inputs).count .call - (s.executed inputs).count .ret := by
  refine ⟨fun s t inputs inner hcall hstates hinner ht => ?_, length_stack_run⟩
  cases inputs with
  | nil => simp [run, Run.empty] at hstates
  | cons input inputs =>
      obtain ⟨next, hcycle, hstack⟩ := exists_cycle_of_call hcall input
      have hsuffix : (wrapAddress (s.pc + 2) :: s.stack) <:+ next.stack :=
        hstack ▸ List.suffix_rfl
      rw [run_of_ok hcycle] at hstates
      cases inner with
      | nil =>
          obtain ⟨rfl, -⟩ := List.cons.inj hstates
          simp [hstack] at ht
      | cons r inner =>
          obtain ⟨rfl, hrest⟩ := List.cons.inj hstates
          obtain ⟨-, hinner⟩ := List.forall_mem_cons.mp hinner
          obtain ⟨⟨u, last, hlast, hreturn, hins⟩, hstack, hpc⟩ :=
            returns_of_states hsuffix hrest hinner ht
          rw [List.getLast?_cons_cons]
          exact ⟨⟨u, last, hlast, hreturn, Instruction.fits_of_ofWord? hins⟩, hstack, hpc⟩

/-- Two nested calls: the inner one comes back into the outer one, and this one to the word after
the first call. -/
theorem calls_bracketed_nested :
    let program := [0x22, 0x04, 0x00, 0x00, 0x22, 0x08, 0x00, 0xEE, 0x00, 0xEE]
    let s := { blank with memory := Memory.zero.store programStart program }
    let inputs := List.replicate 4 ⟨Keypad.released, 0⟩
    ∃ inner t, Instruction.call.pattern.Fits s.fetch ∧ (s.run inputs).states = inner ++ [t] ∧
      (∀ r ∈ inner, r.stack.length ≠ s.stack.length) ∧ t.stack.length = s.stack.length ∧
      t.stack = s.stack ∧ t.pc = wrapAddress (s.pc + 2) := by
  intro program s inputs
  have hcall : Instruction.call.pattern.Fits s.fetch :=
    Instruction.fits_of_ofWord? (by decide +kernel)
  have hne : (s.run inputs).states ≠ [] := List.ne_nil_of_length_pos (by decide +kernel)
  have hstates := Run.states_eq_dropLast_append s hne
  have hinner : ∀ r ∈ (s.run inputs).states.dropLast, r.stack.length ≠ s.stack.length := by
    decide +kernel
  have ht : ((s.run inputs).last s).stack.length = s.stack.length := by
    decide +kernel
  exact ⟨_, _, hcall, hstates, hinner, ht,
    (calls_bracketed.1 s _ inputs _ hcall hstates hinner ht).2⟩

end State

end ChipVm
