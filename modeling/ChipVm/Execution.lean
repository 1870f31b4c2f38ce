import ChipVm.Font
import ChipVm.Instruction
import ChipVm.Keypad
import ChipVm.Sprite

/-!
# Executing an instruction

Before an instruction acts, the program counter moves on to the word after it.  An instruction that
is not about control leaves it there, a skip moves it on once more, jumps and calls overwrite it,
and the instruction that waits for a key moves it back, so that it runs again.

Where an instruction has both a result and a flag, the result is written first: when the result
register is the flag register, the flag is what stays.

What an instruction needs from outside, the keys held and a random byte, comes in as an `Input`.

* `Input` — the keys and the random byte of one step.
* `decimalDigits` — the three decimal digits of a byte.
* `State.advance`, `State.rewind`, `State.skipIf` — moving the program counter.
* `Instruction.execute` — the effect of each instruction.
* **`State.rewind_advance`** — moving on and back leads to the address one came from.
* **`decimalDigits_isOk_iff`** — exactly the bytes have three digits.
-/

namespace ChipVm

/-- What one step takes from outside the machine. -/
structure Input where
  /-- The keys that are held. -/
  keys : Keypad
  /-- The byte that the random instruction draws. -/
  random : UInt8

/-- The decimal digits of a byte: hundreds, tens and ones.  Any other value is refused. -/
def decimalDigits (value : Int) : Except Fault (List UInt8) :=
  if 0 ≤ value ∧ value ≤ 255 then
    let b := UInt8.ofNat value.toNat
    .ok [b / 100, b / 10 % 10, b % 10]
  else .error (.decimalOutOfRange value)

/-- **Exactly the bytes have three digits.** -/
theorem decimalDigits_isOk_iff (value : Int) :
    (∃ digits, decimalDigits value = .ok digits) ↔ 0 ≤ value ∧ value ≤ 255 := by
  unfold decimalDigits
  split <;> simp_all

/-- A condition as a flag. -/
def flagOf (p : Prop) [Decidable p] : UInt8 := if p then 1 else 0

namespace State

/-- The state with register `x` replaced. -/
def setV (s : State) (x : Fin 16) (b : UInt8) : State := { s with v := s.v.write x b }

@[simp] theorem v_setV (s : State) (x : Fin 16) (b : UInt8) : (s.setV x b).v = s.v.write x b := rfl

/-- The state with a result in register `x` and then a flag in the flag register. -/
def setFlagged (s : State) (x : Fin 16) (b flag : UInt8) : State :=
  (s.setV x b).setV flagRegister flag

/-- The program counter moved on by one word. -/
def advance (s : State) : State := { s with pc := wrapAddress (s.pc + 2) }

/-- The program counter moved back by one word. -/
def rewind (s : State) : State := { s with pc := wrapAddress (s.pc - 2) }

/-- The program counter moved on by one word if `p` holds. -/
def skipIf (s : State) (p : Prop) [Decidable p] : State := if p then s.advance else s

/-- **Moving on and back leads to where one came from,** up to the width of the address space. -/
theorem rewind_advance (s : State) : s.advance.rewind = { s with pc := wrapAddress s.pc } := by
  have h : wrapAddress (wrapAddress (s.pc + 2) - 2) = wrapAddress s.pc := by
    apply UInt16.toNat_inj.mp
    have := s.pc.toNat_lt
    simp [UInt16.toNat_sub]
    omega
  simp [advance, rewind, h]

end State

namespace Instruction

/-- The effect of the instruction with the operands of word `w`, once the program counter has moved
past it. -/
def act (ins : Instruction) (w : Word) (input : Input) (s : State) : Except Fault State :=
  let vx := s.v.read w.x
  let vy := s.v.read w.y
  match ins with
  | .clear => .ok { s with display := Display.dark }
  | .ret =>
      match s.stack with
      | [] => .error (.emptyStack s.rewind.pc)
      | a :: outer => .ok { s with pc := a, stack := outer }
  | .jump => .ok { s with pc := w.nnn }
  | .call => .ok { s with pc := w.nnn, stack := s.pc :: s.stack }
  | .skipIfByte => .ok (s.skipIf (vx = w.kk))
  | .skipUnlessByte => .ok (s.skipIf (vx ≠ w.kk))
  | .skipIfEqual => .ok (s.skipIf (vx = vy))
  | .setByte => .ok (s.setV w.x w.kk)
  | .addByte => .ok (s.setV w.x (vx + w.kk))
  | .copy => .ok (s.setV w.x vy)
  | .or => .ok (s.setV w.x (vx ||| vy))
  | .and => .ok (s.setV w.x (vx &&& vy))
  | .xor => .ok (s.setV w.x (vx ^^^ vy))
  | .add => .ok (s.setFlagged w.x (vx + vy) (flagOf (256 ≤ vx.toNat + vy.toNat)))
  | .subtract => .ok (s.setFlagged w.x (vx - vy) (flagOf (vy < vx)))
  | .shiftRight => .ok (s.setFlagged w.x (vx >>> 1) (vx &&& 1))
  | .subtractFrom => .ok (s.setFlagged w.x (vy - vx) (flagOf (vx < vy)))
  | .shiftLeft => .ok (s.setFlagged w.x (vx <<< 1) (vx >>> 7))
  | .skipUnlessEqual => .ok (s.skipIf (vx ≠ vy))
  | .setIndex => .ok { s with i := w.nnn }
  | .jumpOffset => .ok { s with pc := wrapAddress ((s.v.read firstRegister).toUInt16 + w.nnn) }
  | .random => .ok (s.setV w.x (input.random &&& w.kk))
  | .draw =>
      let d := Sprite.draw s.memory s.i vx vy w.n s.display
      .ok ({ s with display := d.display }.setV flagRegister d.collision)
  | .skipIfHeld => .ok (s.skipIf (input.keys.isHeld vx = true))
  | .skipUnlessHeld => .ok (s.skipIf (input.keys.isHeld vx = false))
  | .readDelay => .ok (s.setV w.x s.delayTimer)
  | .awaitKey =>
      match input.keys.lowest? with
      | some k => .ok (s.setV w.x (UInt8.ofNat k.val))
      | none => .ok s.rewind
  | .setDelay => .ok { s with delayTimer := vx }
  | .setSound => .ok { s with soundTimer := vx }
  | .addIndex => .ok { s with i := s.i + vx.toUInt16 }
  | .pointGlyph => .ok { s with i := Font.offset (keyOf vx) }
  | .storeDecimal =>
      match decimalDigits vx.toNat with
      | .ok digits => .ok { s with memory := s.memory.store s.i digits }
      | .error fault => .error fault
  | .storeRegisters =>
      .ok { s with memory := s.memory.store s.i (s.v.toList.take (w.x.val + 1)) }
  | .loadRegisters =>
      .ok { s with v := Registers.ofFn fun k =>
              if k ≤ w.x then s.read (s.i + UInt16.ofNat k.val) else s.v.read k }

/-- Executes the instruction with the operands of word `w`: the program counter moves past it, then
it acts. -/
def execute (ins : Instruction) (w : Word) (input : Input) (s : State) : Except Fault State :=
  ins.act w input s.advance

end Instruction

end ChipVm
