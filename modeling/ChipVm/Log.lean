/-!
# The log

What the machine and its host have to say is written to a log, one entry at a time.  Each entry has
a level; the log lets entries through down to a certain level of detail and drops the rest.  The log
is a value: it holds the entries it let through, in the order they were written.

* `Log.Level` — how important an entry is, from errors down to traces.
* `Log` — the limit and the entries; `Log.silent` and `Log.atLevel` — logs without entries.
* `Log.write` — one more entry, if the limit lets it through.
* **`Log.entries_write`** — an entry is kept, at the end, exactly if its level is let through.
-/

namespace ChipVm

namespace Log

/-- How important an entry is, the most important first. -/
inductive Level where
  | error
  | warn
  | info
  | debug
  | trace
  deriving DecidableEq, Repr

/-- The place of a level when levels are ordered by growing detail. -/
def Level.detail : Level → Nat
  | .error => 1
  | .warn => 2
  | .info => 3
  | .debug => 4
  | .trace => 5

/-- The name of a level. -/
def Level.name : Level → String
  | .error => "ERROR"
  | .warn => "WARN"
  | .info => "INFO"
  | .debug => "DEBUG"
  | .trace => "TRACE"

/-- One thing that was said. -/
structure Entry where
  /-- How important it is. -/
  level : Level
  /-- What was said. -/
  text : String
  deriving DecidableEq, Repr

end Log

/-- A log: how much detail it lets through, and what it let through so far. -/
structure Log where
  /-- The least important level that is let through; `none` lets nothing through. -/
  limit : Option Log.Level
  /-- What was let through, oldest first. -/
  entries : Array Log.Entry

namespace Log

/-- An empty log that lets entries through down to `level`. -/
def atLevel (limit : Option Level) : Log := ⟨limit, #[]⟩

/-- A log that lets nothing through. -/
def silent : Log := atLevel none

/-- Whether entries of a level are let through. -/
def allows (log : Log) (level : Level) : Bool :=
  match log.limit with
  | none => false
  | some limit => level.detail ≤ limit.detail

/-- The log after one more entry. -/
def write (log : Log) (level : Level) (text : String) : Log :=
  if log.allows level then { log with entries := log.entries.push ⟨level, text⟩ } else log

/-- The log with its entries taken out. -/
def cleared (log : Log) : Log := { log with entries := #[] }

@[simp] theorem limit_write (log : Log) (level : Level) (text : String) :
    (log.write level text).limit = log.limit := by
  unfold write
  split <;> rfl

/-- **An entry is kept exactly if its level is let through,** and then at the end. -/
theorem entries_write (log : Log) (level : Level) (text : String) :
    (log.write level text).entries.toList =
      log.entries.toList ++ (if log.allows level then [⟨level, text⟩] else []) := by
  unfold write
  split <;> simp

end Log

end ChipVm
