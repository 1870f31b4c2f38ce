import ChipVm.Execution
import ChipVm.State.Boot
import ChipVm.Tracer

/-!
# Cycles

One cycle fetches the word that the program counter points at, finds the instruction it stands for,
and executes it.  A word that is no instruction, or an instruction that fails, gives a fault and no
state: the state before the cycle is still there and still the last good one.

A cycle may be traced.  The line of an instruction is handed over before the instruction is
executed, so an instruction that fails is traced and a word that is no instruction is not.

* `State.obey` — what a word does to a state; `State.cycle` — the same with the word fetched.
* `Instruction.traceLine` — the line of an instruction with its operands.
* `State.obeyTraced`, `State.cycleTraced` — the same with a tracer.
* `Word.describe` — what a listing shows for a word.
* **`State.obeyTraced_fst`** — no tracer changes what happens.
-/

namespace ChipVm

/-- What a listing shows for a word: the mnemonic of its instruction, or why there is none. -/
def Word.describe (w : Word) : String :=
  match Instruction.ofWord? w with
  | some ins => ins.mnemonic
  | none => (Fault.illegalWord w).message

/-- The line that is handed to a tracer: the word, the mnemonic, and the operands if there are
any. -/
def Instruction.traceLine (ins : Instruction) (w : Word) : String :=
  let operands := ins.operands w
  if operands.isEmpty then s!"{Hex.text 4 w.toNat} - {ins.mnemonic}"
  else s!"{Hex.text 4 w.toNat} - {ins.mnemonic}: {operands}"

namespace State

variable {σ : Type}

/-- Does what a word says. -/
def obey (s : State) (w : Word) (input : Input) : Except Fault State :=
  match Instruction.ofWord? w with
  | some ins => ins.execute w input s
  | none => .error (.illegalWord w)

/-- Does what the word at the program counter says. -/
def cycle (s : State) (input : Input) : Except Fault State :=
  s.obey s.fetch input

/-- Does what a word says, and tells a tracer. -/
def obeyTraced (s : State) (w : Word) (input : Input) (t : Tracer σ) (gathered : σ) :
    Except Fault State × σ :=
  match Instruction.ofWord? w with
  | some ins => (ins.execute w input s, t.note gathered fun _ => ins.traceLine w)
  | none => (.error (.illegalWord w), gathered)

/-- Does what the word at the program counter says, and tells a tracer. -/
def cycleTraced (s : State) (input : Input) (t : Tracer σ) (gathered : σ) :
    Except Fault State × σ :=
  s.obeyTraced s.fetch input t gathered

/-- **No tracer changes what happens.** -/
@[simp] theorem obeyTraced_fst (s : State) (w : Word) (input : Input) (t : Tracer σ)
    (gathered : σ) : (s.obeyTraced w input t gathered).1 = s.obey w input := by
  unfold obeyTraced obey
  cases Instruction.ofWord? w <;> rfl

/-- A traced cycle does what a cycle does. -/
@[simp] theorem cycleTraced_fst (s : State) (input : Input) (t : Tracer σ) (gathered : σ) :
    (s.cycleTraced input t gathered).1 = s.cycle input :=
  obeyTraced_fst s s.fetch input t gathered

end State

end ChipVm
