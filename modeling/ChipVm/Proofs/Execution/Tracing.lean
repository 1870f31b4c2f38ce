import ChipVm.Proofs.Execution.Trail
import ChipVm.Proofs.Machine.Failures
import ChipVm.Proofs.Text.Hexadecimal

/-!
# What a tracer is told

A run fetches one word in each of its cycles, the one that fails included.  A tracer is told of
every word that is an instruction, in this order, and of no other; whether the instruction then
fails does not matter to it.  A word that is no instruction ends the run, so that at most the last
word is passed over.

What is fetched is read from memory when its cycle begins: a program that writes over itself is
traced as it is executed, and not as it was loaded.

* `State.fetched` — the words of a run, and `Run.refused?` — the one that was no instruction.
* `Word.traceLine?` — the line of a word, and `Word.Announces` — how a line begins.
* `Tracer.noteAll` — what a tracer has gathered after some lines.
* **`State.runTraced_snd`** — what a tracer has gathered after a run.
* **`State.fetched_eq`** — all words are instructions, but for a last one that was refused.
* **`State.exists_lines_of_run`** — the lines that are kept of a run.
-/

namespace ChipVm

/-! ## Lines -/

namespace Word

/-- Whether a word stands for an instruction. -/
def isInstruction (w : Word) : Bool := (Instruction.ofWord? w).isSome

/-- The line of a word, if it stands for an instruction. -/
def traceLine? (w : Word) : Option String := (Instruction.ofWord? w).map (·.traceLine w)

/-- A line that begins with the four digits of a word and with what a listing shows for it. -/
def Announces (w : Word) (line : String) : Prop :=
  ∃ rest, line = w.numeral ++ " - " ++ w.describe ++ rest

variable {w : Word}

lemma describe_of_eq_some {ins : Instruction} (h : Instruction.ofWord? w = some ins) :
    w.describe = ins.mnemonic := by
  rw [describe, h]

lemma announces_traceLine {ins : Instruction} (h : Instruction.ofWord? w = some ins) :
    w.Announces (ins.traceLine w) := by
  rw [Announces, describe_of_eq_some h, ← text_eq_numeral, Instruction.traceLine]
  split_ifs
  · exact ⟨"", String.append_empty.symm⟩
  · exact ⟨": " ++ ins.operands w, String.append_assoc⟩

/-- The lines of some words are those of the instructions among them, in order. -/
lemma forall₂_announces (words : List Word) :
    List.Forall₂ Announces (words.filter isInstruction) (words.filterMap traceLine?) := by
  induction words with
  | nil => exact .nil
  | cons w words ih =>
      rcases h : Instruction.ofWord? w with _ | ins
      · rw [List.filter_cons_of_neg (by simp [isInstruction, h]),
          List.filterMap_cons_none (by simp [traceLine?, h])]
        exact ih
      · rw [List.filter_cons_of_pos (by simp [isInstruction, h]),
          List.filterMap_cons_some (by rw [traceLine?, h, Option.map_some])]
        exact .cons (announces_traceLine h) ih

end Word

/-! ## Tracers -/

namespace Tracer

variable {σ : Type} (t : Tracer σ)

/-- What a tracer has gathered after it was told some lines. -/
def noteAll (gathered : σ) (lines : List String) : σ :=
  lines.foldl (fun gathered line => t.note gathered fun _ => line) gathered

@[simp] lemma noteAll_nil (gathered : σ) : t.noteAll gathered [] = gathered := rfl

@[simp] lemma noteAll_cons (gathered : σ) (line : String) (lines : List String) :
    t.noteAll gathered (line :: lines) = t.noteAll (t.note gathered fun _ => line) lines := rfl

lemma noteAll_keep (gathered : Array String) (lines : List String) :
    keep.noteAll gathered lines = gathered ++ lines.toArray := by
  induction lines generalizing gathered with
  | nil => simp
  | cons line lines ih => simp [ih]

end Tracer

/-! ## Runs -/

/-- The word that ended a run because it was no instruction, if one did. -/
def Run.refused? (r : Run) : Option Word :=
  match r.fault with
  | some (.illegalWord w) => some w
  | _ => none

@[simp] lemma Run.refused?_cons (s : State) (r : Run) : (r.cons s).refused? = r.refused? := rfl

namespace State

variable {σ : Type} {s u : State} {input : Input}

/-- The words that a run fetches, in order: one in each state in which a cycle begins. -/
def fetched (s : State) (inputs : List Input) : List Word :=
  ((s :: (s.run inputs).states).take inputs.length).map fetch

lemma fetched_of_ok (h : s.cycle input = .ok u) (inputs : List Input) :
    s.fetched (input :: inputs) = s.fetch :: u.fetched inputs := by
  rw [fetched, run_of_ok h]
  rfl

lemma fetched_of_error {fault : Fault} (h : s.cycle input = .error fault) (inputs : List Input) :
    s.fetched (input :: inputs) = [s.fetch] := by
  rw [fetched, run_of_error h, List.length_cons, List.take_succ_cons, List.take_nil]
  rfl

lemma obeyTraced_snd (s : State) (w : Word) (input : Input) (t : Tracer σ) (gathered : σ) :
    (s.obeyTraced w input t gathered).2 = t.noteAll gathered w.traceLine?.toList := by
  rw [obeyTraced, Word.traceLine?]
  rcases Instruction.ofWord? w with _ | ins <;> rfl

lemma cycleTraced_eq (s : State) (input : Input) (t : Tracer σ) (gathered : σ) :
    s.cycleTraced input t gathered =
      (s.cycle input, t.noteAll gathered s.fetch.traceLine?.toList) :=
  Prod.ext (cycleTraced_fst s input t gathered) (obeyTraced_snd s s.fetch input t gathered)

/-- **What a tracer has gathered after a run** are the lines of the words that were fetched. -/
theorem runTraced_snd (s : State) (t : Tracer σ) (gathered : σ) (inputs : List Input) :
    (s.runTraced t gathered inputs).2 =
      t.noteAll gathered ((s.fetched inputs).filterMap Word.traceLine?) := by
  induction inputs generalizing s gathered with
  | nil => rfl
  | cons input inputs ih =>
      rw [runTraced, cycleTraced_eq]
      rcases hcycle : s.cycle input with fault | next
      · rw [fetched_of_error hcycle]
        rcases h : s.fetch.traceLine? with _ | line <;> simp [h]
      · rw [fetched_of_ok hcycle]
        rcases h : s.fetch.traceLine? with _ | line <;> simp [h, ih]

/-- A word that is obeyed is an instruction. -/
lemma isInstruction_of_cycle (h : s.cycle input = .ok u) : s.fetch.isInstruction = true := by
  obtain ⟨ins, hfits, -⟩ := exists_execute_of_obey h
  rw [Word.isInstruction, Instruction.ofWord?_of_fits hfits, Option.isSome_some]

/-- A cycle that fails has fetched an instruction, or the word that its fault names. -/
lemma singleton_fetch_of_error {fault : Fault} (h : s.cycle input = .error fault) :
    [s.fetch] = [s.fetch].filter Word.isInstruction ++
      (Run.refused? ⟨[], some fault⟩).toList := by
  rcases cycle_eq_error_iff.mp h with ⟨hnone, rfl⟩ | ⟨hret, -, rfl⟩
  · have hword : Instruction.ofWord? s.fetch = none := Instruction.ofWord?_eq_none_iff.mpr hnone
    rw [List.filter_cons_of_neg (by simp [Word.isInstruction, hword])]
    rfl
  · rw [hret]
    rfl

/-- **All words of a run are instructions, but for a last one that was refused.** -/
theorem fetched_eq (s : State) (inputs : List Input) :
    s.fetched inputs =
      (s.fetched inputs).filter Word.isInstruction ++ (s.run inputs).refused?.toList := by
  induction inputs generalizing s with
  | nil => rfl
  | cons input inputs ih =>
      rcases hcycle : s.cycle input with fault | next
      · rw [fetched_of_error hcycle, run_of_error hcycle]
        exact singleton_fetch_of_error hcycle
      · rw [fetched_of_ok hcycle, run_of_ok hcycle, Run.refused?_cons,
          List.filter_cons_of_pos (isInstruction_of_cycle hcycle), List.cons_append, ← ih]

/-- **The lines that are kept of a run** come after those kept before, one for each instruction that
was fetched. -/
theorem exists_lines_of_run (s : State) (inputs : List Input) (kept : Array String) :
    ∃ lines : List String,
      (s.runTraced Tracer.keep kept inputs).2 = kept ++ lines.toArray ∧
        List.Forall₂ Word.Announces ((s.fetched inputs).filter Word.isInstruction) lines :=
  ⟨(s.fetched inputs).filterMap Word.traceLine?,
    by rw [runTraced_snd, Tracer.noteAll_keep], Word.forall₂_announces _⟩

end State

end ChipVm
