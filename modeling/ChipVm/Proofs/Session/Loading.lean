import ChipVm.Proofs.Session.Conduct

/-!
# Loading what was saved

A state that was saved in a run can be loaded again for as long as the run lasts.  Nothing but
saving writes the file, so that the file still holds the text of the state that was saved last; and
since the machine is sound at every moment of a run, this text is one that is accepted.  A file that
cannot be read, or that holds something else, costs nothing but a warning.

* `Session.readText_of_saved` — until the state is saved again, its text is in the file.
* `Session.loadState_of_readText` — loading the text of a valid state.
* **`Session.load_after_save`** — what loading does at any moment of a run.
-/

namespace ChipVm

namespace Session

variable {s t : Session}

/-- A state that was saved is in its file. -/
lemma readText_of_saveState (h : saveState s = (.goesOn, t)) :
    t.disk.readText t.stateFile = .ok s.machine.state.save := by
  unfold saveState at h
  split at h
  · cases h
  · rename_i disk hwrite
    cases h
    exact Disk.readText_writeText hwrite

/-- A file that holds the text of a valid state is loaded. -/
lemma loadState_of_readText {state : State} (hvalid : state.Valid)
    (hread : s.disk.readText s.stateFile = .ok state.save) :
    loadState s = (.goesOn, { s with
      machine := { s.machine with state := state, frameDue := true }
      log := s.log.write .info s!"loaded state from {Quoted.text s.stateFile}" }) := by
  simp only [loadState, hread, Machine.restore_save_eq hvalid]
  rfl

/-- Why the state cannot be loaded from a file: it cannot be read, or its text is refused. -/
def Unloadable (disk : Disk) (path : String) (reason : String) : Prop :=
  (∃ fault, disk.readText path = .error fault ∧ reason = fault.message) ∨
    ∃ text fault, disk.readText path = .ok text ∧ State.restore text = .error fault ∧
      reason = fault.message

/-- A file that cannot be loaded costs nothing but a warning. -/
lemma loadState_of_unloadable {reason : String} (h : Unloadable s.disk s.stateFile reason) :
    loadState s = (.goesOn, s.warnUnloaded reason) := by
  rcases h with ⟨fault, hread, rfl⟩ | ⟨text, fault, hread, hrestore, rfl⟩
  · simp only [loadState, hread]
  · simp only [loadState, hread, Machine.restore, hrestore]
    rfl

/-- A file is loaded or it is not, and the session goes on. -/
lemma loadState_goesOn (s : Session) : loadState s = (.goesOn, (loadState s).2) := by
  unfold loadState
  split
  · rfl
  · dsimp only
    split <;> rfl

/-! ## Loading in a run -/

/-- The last time that something happened. -/
lemma exists_last_of_mem {α : Type} {a : α} {as : List α} (h : a ∈ as) :
    ∃ before after, as = before ++ a :: after ∧ a ∉ after := by
  obtain ⟨after, before, has, hafter⟩ := List.eq_append_cons_of_mem (List.mem_reverse.mpr h)
  refine ⟨before.reverse, after.reverse, ?_, fun h => hafter (List.mem_reverse.mp h)⟩
  simpa using congrArg List.reverse has

/-- **Until it is saved again, the state that was saved is in its file.** -/
lemma readText_of_saved {between : List Act} {u : Session} (hbetween : .handle .save ∉ between)
    (h : follow (.handle .save :: between) u = (.goesOn, s)) :
    s.disk.readText s.stateFile = .ok u.machine.state.save := by
  obtain ⟨saved, hsave, hrest⟩ := follow_cons_eq_goesOn_iff.mp h
  rw [disk_follow hbetween hrest, stateFile_follow hrest]
  exact readText_of_saveState hsave

variable {options : Options} {disk : Disk} {ws : WindowSystem} {log : Log} {script : List Pass}
  {past later : List Act}

/-- **What was saved is loaded.**  At any moment of a run, loading leads back to the state at the
last save in this run, if there was one: this save succeeded, and of the rest of the machine no more
changes than that a frame is due.  If the file cannot be read or its text is refused, nothing
changes but that there is a warning in the log.  In either case the run goes on. -/
theorem load_after_save (hagenda : agenda options script = past ++ .handle .load :: later)
    (hs : follow past (idle options disk ws log) = (.goesOn, s)) :
    (.handle .save ∈ past → ∃ before between u, past = before ++ .handle .save :: between ∧
      .handle .save ∉ between ∧ follow before (idle options disk ws log) = (.goesOn, u) ∧
      (handle .save u).1 = .goesOn ∧
      handle .load s = (.goesOn, { s with
        machine := { s.machine with state := u.machine.state, frameDue := true }
        log := s.log.write .info s!"loaded state from {Quoted.text options.stateFile}" })) ∧
    (∀ reason, Unloadable s.disk options.stateFile reason → handle .load s = (.goesOn, { s with
      log := s.log.write .warn
        s!"unable to load state from {Quoted.text options.stateFile}: {reason}" })) ∧
    run options script (idle options disk ws log) = follow later (handle .load s).2 := by
  have hfile : s.stateFile = options.stateFile := stateFile_follow hs
  refine ⟨fun hsaved => ?_, fun reason hreason => ?_, ?_⟩
  · obtain ⟨before, between, rfl, hbetween⟩ := exists_last_of_mem hsaved
    obtain ⟨u, hu, hrest⟩ := follow_append_eq_goesOn_iff.mp hs
    obtain ⟨saved, hsave, -⟩ := follow_cons_eq_goesOn_iff.mp hrest
    have hvalid : u.machine.state.Valid := (sound_follow Machine.sound_fresh hu).valid
    have hload := loadState_of_readText hvalid (readText_of_saved hbetween hrest)
    rw [← hfile]
    exact ⟨before, between, u, rfl, hbetween, hu, congrArg Prod.fst hsave, hload⟩
  · rw [← hfile] at hreason ⊢
    exact loadState_of_unloadable hreason
  · rw [run_eq_follow, hagenda, follow_append_of_goesOn hs]
    exact Stage.andThen_of_goesOn (loadState_goesOn s) (follow later)

/-! The counting program is saved, started over and counts to one, is saved again, started over
again, and loaded. -/

/-- The passes before the one in which the state is loaded. -/
def countingPasses : List Pass :=
  [⟨[.save], 0⟩, ⟨[.restart, .step], 0⟩, ⟨[.save, .restart], 0⟩]

/-- What is done until the state is loaded. -/
def countingPast : List Act :=
  countingOptions.agenda ++ countingPasses.flatMap Pass.agenda ++ [.showFrame, .poll]

/-- The state is loaded as it was when it was saved the second time. -/
theorem load_after_save_counting :
    let s := (follow countingPast countingFirst).2
    agenda countingOptions (countingPasses ++ [⟨[.load], 0⟩]) =
        countingPast ++ .handle .load ::
          ([.advance 0, .concludeStep] ++ lastPass.agenda) ∧
      follow countingPast countingFirst = (.goesOn, s) ∧ .handle .save ∈ countingPast ∧
      ∃ before between u, countingPast = before ++ .handle .save :: between ∧
        .handle .save ∉ between ∧ follow before countingFirst = (.goesOn, u) ∧
        handle .load s = (.goesOn, { s with
          machine := { s.machine with state := u.machine.state, frameDue := true }
          log := s.log.write .info
            s!"loaded state from {Quoted.text countingOptions.stateFile}" }) := by
  intro s
  have hagenda : agenda countingOptions (countingPasses ++ [⟨[.load], 0⟩]) =
      countingPast ++ .handle .load :: ([.advance 0, .concludeStep] ++ lastPass.agenda) := by
    decide
  have hs : follow countingPast countingFirst = (.goesOn, s) := by
    have hverdict : (follow countingPast countingFirst).1 = .goesOn := by decide +kernel
    exact Prod.ext hverdict rfl
  have hsaved : .handle .save ∈ countingPast := by decide
  obtain ⟨before, between, u, hpast, hbetween, hu, -, hload⟩ :=
    (load_after_save hagenda hs).1 hsaved
  exact ⟨hagenda, hs, hsaved, before, between, u, hpast, hbetween, hu, hload⟩

end Session

end ChipVm
