import ChipVm.Proofs.Execution.ControlFlow
import ChipVm.Proofs.Text.Hexadecimal

/-!
# What an instruction reads from its word

A word has more digits than most instructions read.  Which of them an instruction reads is shown
when it is traced, and nothing else of the word has an influence: words that are shown with the same
operands have the same effect, whatever their other digits are.  The shifts, for one, are shown with
one register and do not look at the other one.

There are two steps.  The operands can be read back from the text, since each of them is written
with a fixed number of digits.  And an instruction uses its word only through these operands.

* `Operands.agree_of_text_eq` — operands that are written the same are the same.
* `Instruction.act_congr` — an instruction depends on its operands alone.
* **`Instruction.execute_eq_of_operands_eq`** — what is shown determines the effect.
-/

namespace ChipVm

variable {w u : Word}

/-! ## Reading operands back -/

/-- A text as its characters, in pieces. -/
lemma Operands.toList_text (o : Operands) (w : Word) : (o.text w).toList =
    match o with
    | .nothing => []
    | .address => "nnn=".toList ++ Hex.padded 3 w.nnn.toNat
    | .registerByte =>
        "x=".toList ++ (Hex.padded 1 w.x.val ++ (", kk=".toList ++ Hex.padded 2 w.kk.toNat))
    | .registers => "x=".toList ++ (Hex.padded 1 w.x.val ++ (", y=".toList ++ Hex.padded 1 w.y.val))
    | .sprite =>
        "x=".toList ++ (Hex.padded 1 w.x.val ++
          (", y=".toList ++ (Hex.padded 1 w.y.val ++ (", n=".toList ++ Hex.padded 1 w.n))))
    | .register => "x=".toList ++ Hex.padded 1 w.x.val := by
  cases o with
  | nothing => rfl
  | address | registerByte | registers | sprite | register =>
      simp only [text, Hex.text, toString, String.toList_append, String.toList_ofList,
        List.append_assoc]

/-- **Operands that are written the same are the same.** -/
lemma Operands.agree_of_text_eq (o : Operands) (h : o.text w = o.text u) : o.Agree w u := by
  have hnnn : ∀ v : Word, v.nnn.toNat < 16 ^ 3 := fun v => v.nnn_toNat ▸ Nat.mod_lt _ (by decide)
  have hkk : ∀ v : Word, v.kk.toNat < 16 ^ 2 := fun v => v.kk.toNat_lt
  have hchars := congrArg String.toList h
  rw [toList_text, toList_text] at hchars
  cases o with
  | nothing => trivial
  | address =>
      have heq := Hex.padded_inj 2 (hnnn w) (hnnn u) (List.append_cancel_left hchars)
      exact UInt16.toNat_inj.mp heq
  | registerByte =>
      obtain ⟨hx, hrest⟩ :=
        Hex.padded_append_inj 0 w.x.isLt u.x.isLt (List.append_cancel_left hchars)
      have heq := Hex.padded_inj 1 (hkk w) (hkk u) (List.append_cancel_left hrest)
      exact ⟨Fin.ext hx, UInt8.toNat_inj.mp heq⟩
  | registers =>
      obtain ⟨hx, hrest⟩ :=
        Hex.padded_append_inj 0 w.x.isLt u.x.isLt (List.append_cancel_left hchars)
      have hy := Hex.padded_inj 0 w.y.isLt u.y.isLt (List.append_cancel_left hrest)
      exact ⟨Fin.ext hx, Fin.ext hy⟩
  | sprite =>
      obtain ⟨hx, hrest⟩ :=
        Hex.padded_append_inj 0 w.x.isLt u.x.isLt (List.append_cancel_left hchars)
      obtain ⟨hy, hrest⟩ :=
        Hex.padded_append_inj 0 w.y.isLt u.y.isLt (List.append_cancel_left hrest)
      have hn := Hex.padded_inj 0 w.n_lt u.n_lt (List.append_cancel_left hrest)
      exact ⟨Fin.ext hx, Fin.ext hy, hn⟩
  | register =>
      have hx := Hex.padded_inj 0 w.x.isLt u.x.isLt (List.append_cancel_left hchars)
      exact Fin.ext hx

/-! ## What an instruction depends on -/

namespace Instruction

variable {ins : Instruction}

/-- **An instruction depends on its operands alone.** -/
lemma act_congr (h : ins.shape.Agree w u) (input : Input) (s : State) :
    ins.act w input s = ins.act u input s := by
  cases ins with
  | clear | ret => rfl
  | jump | call | setIndex | jumpOffset =>
      have hnnn : w.nnn = u.nnn := h
      simp only [act, hnnn]
  | skipIfByte | skipUnlessByte | setByte | addByte | random =>
      obtain ⟨hx, hkk⟩ := h
      simp only [act, hx, hkk]
  | skipIfEqual | skipUnlessEqual | copy | or | and | xor | add | subtract | subtractFrom =>
      obtain ⟨hx, hy⟩ := h
      simp only [act, hx, hy]
  | draw =>
      obtain ⟨hx, hy, hn⟩ := h
      simp only [act, hx, hy, hn]
  | shiftRight | shiftLeft | skipIfHeld | skipUnlessHeld | readDelay | awaitKey | setDelay
  | setSound | addIndex | pointGlyph | storeDecimal | storeRegisters | loadRegisters =>
      have hx : w.x = u.x := h
      simp only [act, hx]

/-- **What is shown of a word determines what it does.**  If an instruction shows two words with the
same operands, executing it with the one or with the other leads from every state, with every input,
to the same state or to the same fault. -/
theorem execute_eq_of_operands_eq (h : ins.operands w = ins.operands u) (input : Input)
    (s : State) : ins.execute w input s = ins.execute u input s :=
  act_congr (ins.shape.agree_of_text_eq h) input s.advance

/-- Halving a register: the last two digits of the word do not matter. -/
theorem execute_eq_of_operands_eq_halving :
    let s := { State.fresh with v := (Registers.zero.write 1 7).write 2 9 }
    shiftRight.operands 0x8126 = shiftRight.operands 0x81F0 ∧
      shiftRight.execute 0x8126 ⟨Keypad.released, 0⟩ s =
        shiftRight.execute 0x81F0 ⟨Keypad.released, 0⟩ s := by
  intro s
  have h : shiftRight.operands 0x8126 = shiftRight.operands 0x81F0 := by decide
  exact ⟨h, execute_eq_of_operands_eq h ⟨Keypad.released, 0⟩ s⟩

end Instruction

end ChipVm
