import ChipVm.Log

/-!
# Tracers

A tracer is told about every instruction before it is executed, as one line of text.  What it does
with the lines is its own affair, and nothing the processor does depends on it.  A tracer that is
not listening is not told anything.

A `Tracer σ` works on a value of type `σ`, which is what the tracer has gathered so far.

* `Tracer.discard` — never listens.
* `Tracer.keep` — gathers all lines.
* `Tracer.forward` — writes each line to a log at level trace, and listens only if the log lets
  that level through.
* `Tracer.note` — one line handed over, if the tracer listens.
* **`Tracer.note_keep`**, **`Tracer.note_forward`** — what each tracer has gathered after a line.
-/

namespace ChipVm

/-- Something that is told about every instruction before it is executed. -/
structure Tracer (σ : Type) where
  /-- Whether lines are wanted at all. -/
  listens : σ → Bool
  /-- What has been gathered after one more line. -/
  record : σ → String → σ

namespace Tracer

variable {σ : Type}

/-- Never listens. -/
def discard : Tracer Unit where
  listens _ := false
  record _ _ := ()

/-- Gathers all lines, oldest first. -/
def keep : Tracer (Array String) where
  listens _ := true
  record lines line := lines.push line

/-- Writes each line to a log at level trace. -/
def forward : Tracer Log where
  listens log := log.allows .trace
  record log line := log.write .trace line

/-- Hands a line over, if the tracer listens.  The line is made only then. -/
def note (t : Tracer σ) (gathered : σ) (line : Unit → String) : σ :=
  if t.listens gathered then t.record gathered (line ()) else gathered

/-- **Gathering adds the line at the end.** -/
@[simp] theorem note_keep (lines : Array String) (line : Unit → String) :
    keep.note lines line = lines.push (line ()) := rfl

/-- **Forwarding is writing at level trace,** whether or not the log was asked first. -/
@[simp] theorem note_forward (log : Log) (line : Unit → String) :
    forward.note log line = log.write .trace (line ()) := by
  by_cases h : log.allows .trace = true <;> simp [note, forward, Log.write, h]

end Tracer

end ChipVm
