import ChipVm.Machine

/-!
# Operations on a machine

Everything that can be done to a machine from outside is one of nine operations.  Written down as
data they can be put into lists, so that one can speak of every machine that some history of
operations leads to.

* `Operation`, `Reply` — what can be done, and what one gets back.
* `Machine.perform` — one operation; `Machine.performAll` — a history of them.
* `Machine.Reachable` — what a history leads to from a fresh machine.
* **`Machine.performAll_append`** — a history can be cut in two anywhere.
-/

namespace ChipVm

/-- Something that can be done to a machine. -/
inductive Operation where
  /-- Start a program. -/
  | loadRom (rom : List UInt8)
  /-- Start the program over. -/
  | reset
  /-- A key goes down. -/
  | press (key : UInt8)
  /-- A key comes up. -/
  | release (key : UInt8)
  /-- Execute one instruction, with the byte that the random instruction draws. -/
  | advanceCpu (random : UInt8)
  /-- Offer the timers a tick. -/
  | advanceTimers
  /-- Take the screen, if it has changed. -/
  | takeFrame
  /-- Write the state down. -/
  | save
  /-- Put a state that was written down in place of the current one. -/
  | restore (text : String)

/-- What an operation that succeeds gives back. -/
inductive Reply where
  /-- Nothing but the success. -/
  | done
  /-- The screen, if it has changed. -/
  | frame (display : Option Display)
  /-- The state as text. -/
  | saved (text : String)

/-- An outcome whose answer says nothing but success. -/
def Outcome.reply (o : Outcome Unit) : Outcome Reply :=
  { answer := o.answer.map fun () => .done, machine := o.machine, log := o.log }

namespace Machine

/-- Performs one operation. -/
def perform (m : Machine) (log : Log) : Operation → Outcome Reply
  | .loadRom rom => (m.loadRom rom log).reply
  | .reset => (m.reset log).reply
  | .press key => ⟨.ok .done, m.press key, log⟩
  | .release key => ⟨.ok .done, m.release key, log⟩
  | .advanceCpu random => (m.advanceCpu random log).reply
  | .advanceTimers => ⟨.ok .done, m.advanceTimers, log⟩
  | .takeFrame => ⟨.ok (.frame m.takeFrame.1), m.takeFrame.2, log⟩
  | .save => ⟨.ok (.saved m.save), m, log⟩
  | .restore text => (m.restore text log).reply

/-- Performs operations one after the other, whether or not they succeed. -/
def performAll (m : Machine) (log : Log) : List Operation → Machine × Log
  | [] => (m, log)
  | op :: ops => performAll (m.perform log op).machine (m.perform log op).log ops

/-- What some history of operations leads to from a fresh machine. -/
def Reachable (m : Machine) : Prop :=
  ∃ (ops : List Operation) (log : Log), (fresh.performAll log ops).1 = m

@[simp] theorem performAll_cons (m : Machine) (log : Log) (op : Operation)
    (ops : List Operation) :
    m.performAll log (op :: ops) =
      (m.perform log op).machine.performAll (m.perform log op).log ops := rfl

/-- A history can be cut in two. -/
theorem performAll_append (m : Machine) (log : Log) (ops later : List Operation) :
    m.performAll log (ops ++ later) =
      (m.performAll log ops).1.performAll (m.performAll log ops).2 later := by
  induction ops generalizing m log with
  | nil => rfl
  | cons op ops ih => simp [ih]

end Machine

end ChipVm
