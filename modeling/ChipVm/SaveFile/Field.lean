import ChipVm.State

/-!
# The fields of a saved state

A saved state has eight fields, each with a name, a place in the usual order, and values of a type
of its own.  Taking a state apart into fields and putting fields together are written once here, so
that the writer and the reader of saved states agree by construction on what a field is.

A `Draft` is a state of which some fields are still missing.

* `Field`, `Field.all`, `Field.name` — the fields, in order, and their names.
* `Field.Value`, `State.field` — what a field holds, and what it holds in a state.
* `Draft`, `Draft.empty`, `Draft.put`, `Draft.state?` — filling in fields one by one.
* **`Draft.state?_eq_some_iff`** — a draft gives a state exactly if every field is filled in, and
  then each field of the state is what was filled in.
-/

namespace ChipVm

/-- The fields of a saved state. -/
inductive Field where
  | memory
  | v
  | i
  | pc
  | stack
  | display
  | delayTimer
  | soundTimer
  deriving DecidableEq, Repr

namespace Field

/-- The fields in their usual order. -/
def all : List Field := [memory, v, i, pc, stack, display, delayTimer, soundTimer]

/-- The name that a field has in a saved state. -/
def name : Field → String
  | memory => "memory"
  | v => "v"
  | i => "i"
  | pc => "pc"
  | stack => "stack"
  | display => "display"
  | delayTimer => "delay_timer"
  | soundTimer => "sound_timer"

/-- What a field holds. -/
abbrev Value : Field → Type
  | memory => Memory
  | v => Registers
  | i => UInt16
  | pc => UInt16
  | stack => List UInt16
  | display => Display
  | delayTimer => UInt8
  | soundTimer => UInt8

/-- The field with a given name. -/
def ofName? (text : List Char) : Option Field := all.find? fun f => f.name.toList = text

theorem mem_all (f : Field) : f ∈ all := by
  cases f <;> decide

/-- Each field is found by its name. -/
@[simp] theorem ofName?_name (f : Field) : ofName? f.name.toList = some f := by
  cases f <;> decide

end Field

/-- What a field holds in a state. -/
def State.field (s : State) : (f : Field) → f.Value
  | .memory => s.memory
  | .v => s.v
  | .i => s.i
  | .pc => s.pc
  | .stack => s.stack
  | .display => s.display
  | .delayTimer => s.delayTimer
  | .soundTimer => s.soundTimer

/-! ## Drafts -/

/-- A state of which some fields may be missing. -/
abbrev Draft := (f : Field) → Option f.Value

namespace Draft

/-- Every field is missing. -/
def empty : Draft := fun _ => none

/-- A draft with one field filled in. -/
def put (d : Draft) (f : Field) (value : f.Value) : Draft := fun g =>
  if h : f = g then some (h ▸ value) else d g

/-- The state that a draft describes, if no field is missing. -/
def state? (d : Draft) : Option State := do
  let memory ← d .memory
  let v ← d .v
  let i ← d .i
  let pc ← d .pc
  let stack ← d .stack
  let display ← d .display
  let delayTimer ← d .delayTimer
  let soundTimer ← d .soundTimer
  return ⟨memory, v, i, pc, stack, display, delayTimer, soundTimer⟩

/-- A field that was just filled in holds what was filled in. -/
@[simp] theorem put_self (d : Draft) (f : Field) (value : f.Value) :
    d.put f value f = some value := by
  simp [put]

/-- Filling in one field leaves the others alone. -/
theorem put_of_ne (d : Draft) {f g : Field} (value : f.Value) (h : f ≠ g) :
    d.put f value g = d g := by
  simp [put, h]

/-- **A draft gives a state exactly if every field is filled in,** and then the fields of the state
are the ones that were filled in. -/
theorem state?_eq_some_iff (d : Draft) (s : State) :
    d.state? = some s ↔ ∀ f, d f = some (s.field f) := by
  constructor
  · intro h f
    simp only [state?, Option.bind_eq_bind, Option.bind_eq_some_iff, Option.pure_def] at h
    obtain ⟨_, h1, _, h2, _, h3, _, h4, _, h5, _, h6, _, h7, _, h8, hs⟩ := h
    cases Option.some.inj hs
    cases f <;> assumption
  · intro h
    simp [state?, h, State.field]

end Draft

end ChipVm
