import ChipVm.Proofs.Bounds.Lookup
import ChipVm.Proofs.Machine.Failures

/-!
# No instruction is refused

Every instruction is executed step by step with lookups that can be refused, on any state and with
any word, whether or not the word stands for it.  None of the steps is refused, for one of four
reasons: an operand is cut down to the digits of a register, an address or a key to the bits that
are looked at, a place on the screen is wrapped around the edges, and a loop is no longer than an
operand allows.

* `Screen.cellAt?`, `Sprite.draw?` — drawing.
* `Instruction.act?`, `Instruction.execute?` — an instruction step by step.
* **`Sprite.draw?_eq`** — drawing is not refused.
* **`Instruction.execute?_eq`** — no instruction is.
-/

namespace ChipVm

/-! ## Drawing -/

namespace Screen

/-- The number of the cell in column `x` and row `y`, both wrapped around the edges. -/
def cellAt? (x y : Nat) : Option Nat := do
  let above ← fits? USize.size (y % displayHeight * displayWidth)
  fits? USize.size (x % displayWidth + above)

lemma cellAt?_eq (x y : Nat) : cellAt? x y = some (cellAt x y).val := by
  have hplace : x % displayWidth + y % displayHeight * displayWidth < displaySize :=
    (cellAt x y).isLt
  have hsize : displaySize < 4096 := by decide
  rw [cellAt?, fits?_index (by omega), Option.bind_eq_bind, Option.bind_some,
    fits?_index (by omega), cellAt]

end Screen

namespace Drawing

/-- Puts a bit on the cell with number `place` and notes whether it went out. -/
def flip? (d : Drawing) (place : Nat) (bit : UInt8) : Option Drawing := do
  let lit ← d.display[place]?
  let display ← put? d.display place (lit ^^^ bit)
  some ⟨display, d.collision ||| (bit &&& lit)⟩

lemma flip?_eq (d : Drawing) (k : Fin displaySize) (bit : UInt8) :
    d.flip? k.val bit = some (d.flip k bit) := by
  rw [flip?, Vector.getElem?_eq_getElem k.isLt, Option.bind_eq_bind, Option.bind_some,
    put?_of_lt k.isLt]
  rfl

end Drawing

namespace Sprite

/-- The bit of a row of a sprite at `column`, the leftmost one first. -/
def pixel? (row : UInt8) (column : Nat) : Option UInt8 := do
  let behind ← less? 7 column
  -- A byte must not be shifted by more than it has bits.
  let amount ← fits? 8 behind
  some (row >>> UInt8.ofNat amount &&& 1)

lemma pixel?_eq (row : UInt8) {column : Nat} (h : column < 8) :
    pixel? row column = some (pixel row column) := by
  rw [pixel?, less?_of_le (Nat.le_of_lt_succ h), Option.bind_eq_bind, Option.bind_some,
    fits?_of_lt (by omega)]
  rfl

/-- Lays the cell at `column` of row `k` of a sprite on the screen. -/
def drawCell? (x y k : Nat) (row : UInt8) (d : Drawing) (column : Nat) : Option Drawing := do
  let bit ← pixel? row column
  let right ← fits? USize.size (x + column)
  let down ← fits? USize.size (y + k)
  let place ← Screen.cellAt? right down
  d.flip? place bit

/-- Lays row `k` of a sprite on the screen. -/
def drawRow? (x y k : Nat) (row : UInt8) (d : Drawing) : Option Drawing :=
  (List.range 8).foldlM (drawCell? x y k row) d

/-- Lays the rows of a sprite on the screen, each read from memory in its turn. -/
def draw? (memory : Memory) (i : UInt16) (x y : UInt8) (height : Nat) (display : Display) :
    Option Drawing :=
  (List.range height).foldlM (fun d k => do
    let row ← memory.read? (i + UInt16.ofNat k)
    drawRow? x.toNat y.toNat k row d) (Drawing.start display)

lemma drawRow?_eq (x y : UInt8) {k : Nat} (hk : k < 16) (row : UInt8) (d : Drawing) :
    drawRow? x.toNat y.toNat k row d = some (drawRow x.toNat (y.toNat + k) row d) := by
  refine foldlM_eq_some (fun _ => True) (fun d _ column hcolumn => ⟨?_, trivial⟩) trivial
  have hlt : column < 8 := List.mem_range.mp hcolumn
  -- A byte and a small number together are far from too large for an index.
  have hx := x.toNat_lt
  have hy := y.toNat_lt
  rw [drawCell?, pixel?_eq row hlt, fits?_index (by omega), fits?_index (by omega)]
  simp only [Option.bind_eq_bind, Option.bind_some, Screen.cellAt?_eq, Drawing.flip?_eq]

/-- **Drawing is not refused,** wherever the sprite is. -/
theorem draw?_eq (memory : Memory) (i : UInt16) (x y : UInt8) {height : Nat} (h : height ≤ 16)
    (display : Display) :
    draw? memory i x y height display = some (draw memory i x y height display) := by
  refine foldlM_eq_some (fun _ => True) (fun d _ k hk => ⟨?_, trivial⟩) trivial
  have hlt : k < 16 := Nat.lt_of_lt_of_le (List.mem_range.mp hk) h
  rw [Memory.read?_eq, Option.bind_eq_bind, Option.bind_some, drawRow?_eq x y hlt]

end Sprite

/-! ## Registers -/

namespace State

/-- The state with the register at the given place replaced. -/
def setV? (s : State) (place : Nat) (b : UInt8) : Option State := do
  let v ← put? s.v place b
  some { s with v := v }

/-- The state with a register replaced and then the flag, which may be the same register. -/
def setFlagged? (s : State) (place : Nat) (b flag : UInt8) : Option State := do
  let s ← s.setV? place b
  s.setV? 0xF flag

variable (s : State) (x : Fin 16) (b flag : UInt8)

@[simp] lemma setV?_eq : s.setV? x.val b = some (s.setV x b) := by
  rw [setV?, put?_of_lt x.isLt]
  rfl

@[simp] lemma setFlagged?_eq : s.setFlagged? x.val b flag = some (s.setFlagged x b flag) := by
  rw [setFlagged?, setV?_eq]
  exact setV?_eq _ flagRegister flag

end State

/-! ## Instructions -/

namespace Instruction

/-- The effect of the instruction with the operands of word `w`, once the program counter has moved
past it.  Both registers are looked up, even if the instruction does without them. -/
def act? (ins : Instruction) (w : Word) (input : Input) (s : State) :
    Option (Except Fault State) := do
  let vx ← s.v[w.xIndex]?
  let vy ← s.v[w.yIndex]?
  match ins with
  -- There is nothing to look up but the registers, and no number to compute.
  | .clear | .ret | .jump | .call | .setIndex => some (ins.act w input s)
  | .skipIfByte => some (.ok (s.skipIf (vx = w.kk)))
  | .skipUnlessByte => some (.ok (s.skipIf (vx ≠ w.kk)))
  | .skipIfEqual => some (.ok (s.skipIf (vx = vy)))
  | .setByte => Except.ok <$> s.setV? w.xIndex w.kk
  | .addByte => Except.ok <$> s.setV? w.xIndex (vx + w.kk)
  | .copy => Except.ok <$> s.setV? w.xIndex vy
  | .or => Except.ok <$> s.setV? w.xIndex (vx ||| vy)
  | .and => Except.ok <$> s.setV? w.xIndex (vx &&& vy)
  | .xor => Except.ok <$> s.setV? w.xIndex (vx ^^^ vy)
  | .add =>
      Except.ok <$> s.setFlagged? w.xIndex (vx + vy) (flagOf (256 ≤ vx.toNat + vy.toNat))
  | .subtract => Except.ok <$> s.setFlagged? w.xIndex (vx - vy) (flagOf (vy < vx))
  | .shiftRight => Except.ok <$> s.setFlagged? w.xIndex (vx >>> 1) (vx &&& 1)
  | .subtractFrom => Except.ok <$> s.setFlagged? w.xIndex (vy - vx) (flagOf (vx < vy))
  | .shiftLeft => Except.ok <$> s.setFlagged? w.xIndex (vx <<< 1) (vx >>> 7)
  | .skipUnlessEqual => some (.ok (s.skipIf (vx ≠ vy)))
  | .jumpOffset => do
      let v0 ← s.v[0]?
      let target ← fits? UInt16.size (v0.toNat + w.nnn.toNat)
      some (.ok { s with pc := UInt16.ofNat target &&& addressMask })
  | .random => Except.ok <$> s.setV? w.xIndex (input.random &&& w.kk)
  | .draw => do
      let d ← Sprite.draw? s.memory s.i vx vy w.n s.display
      Except.ok <$> { s with display := d.display }.setV? 0xF d.collision
  | .skipIfHeld => do
      let held ← input.keys.isHeld? vx
      some (.ok (s.skipIf (held = true)))
  | .skipUnlessHeld => do
      let held ← input.keys.isHeld? vx
      some (.ok (s.skipIf (held = false)))
  | .readDelay => Except.ok <$> s.setV? w.xIndex s.delayTimer
  | .awaitKey =>
      match input.keys.lowest? with
      | some k => Except.ok <$> s.setV? w.xIndex (UInt8.ofNat k.val)
      | none => some (.ok s.rewind)
  | .setDelay => some (.ok { s with delayTimer := vx })
  | .setSound => some (.ok { s with soundTimer := vx })
  | .addIndex => some (.ok { s with i := s.i + vx.toUInt16 })
  | .pointGlyph => do
      let i ← Font.offset? vx
      some (.ok { s with i := i })
  | .storeDecimal => do
      -- A value without three digits is refused here.
      let digits ← (decimalDigits vx.toNat).toOption
      let memory ← s.memory.store? s.i digits digits.length
      some (.ok { s with memory := memory })
  | .storeRegisters => do
      let memory ← s.memory.store? s.i s.v.toList (w.xIndex + 1)
      some (.ok { s with memory := memory })
  | .loadRegisters => do
      let v ← s.v.load? s.memory s.i (w.xIndex + 1)
      some (.ok { s with v := v })

/-- The effect of the instruction with the operands of word `w`. -/
def execute? (ins : Instruction) (w : Word) (input : Input) (s : State) :
    Option (Except Fault State) :=
  ins.act? w input s.advance

variable (w : Word) (s : State)

lemma getElem?_v (x : Fin 16) : s.v[x.val]? = some (s.v.read x) :=
  Vector.getElem?_eq_getElem x.isLt

/-- The offset and the address of a jump are far from too large together. -/
lemma fits?_jumpOffset (v0 : UInt8) :
    fits? UInt16.size (v0.toNat + w.nnn.toNat) = some (v0.toUInt16 + w.nnn).toNat := by
  have hv := v0.toNat_lt
  have hlt : w.nnn.toNat < 4096 := by
    rw [Word.nnn_toNat]
    exact Nat.mod_lt _ (by decide)
  have hsum : v0.toNat + w.nnn.toNat < UInt16.size := by
    simp only [UInt16.size]
    omega
  rw [fits?_of_lt hsum, UInt16.toNat_add, UInt8.toNat_toUInt16, Nat.mod_eq_of_lt hsum]

/-- **No instruction is refused,** once the program counter has moved. -/
theorem act?_eq (ins : Instruction) (input : Input) :
    ins.act? w input s = some (ins.act w input s) := by
  rw [act?, Word.xIndex_eq, Word.yIndex_eq, getElem?_v, getElem?_v]
  simp only [Option.bind_eq_bind, Option.bind_some]
  cases ins with
  | jumpOffset =>
      have hv0 : s.v[0]? = some (s.v.read firstRegister) := getElem?_v s firstRegister
      simp only [hv0, Option.bind_some, fits?_jumpOffset]
      rw [UInt16.ofNat_toNat]
      rfl
  | draw =>
      simp only [Sprite.draw?_eq _ _ _ _ (Nat.le_of_lt w.n_lt), Option.bind_some]
      exact congrArg (Except.ok <$> ·) (State.setV?_eq _ flagRegister _)
  | skipIfHeld | skipUnlessHeld =>
      simp only [Keypad.isHeld?_eq, Option.bind_some]
      rfl
  | awaitKey =>
      simp only [act]
      rcases input.keys.lowest? with _ | k
      · rfl
      · exact congrArg (Except.ok <$> ·) (State.setV?_eq _ w.x _)
  | pointGlyph =>
      simp only [Font.offset?_eq, Option.bind_some]
      rfl
  | storeDecimal =>
      obtain ⟨digits, hdigits⟩ := exists_decimalDigits (s.v.read w.x)
      simp only [act, hdigits, Except.toOption, Option.bind_some,
        Memory.store?_eq _ _ (Nat.le_refl _), List.take_length]
  | storeRegisters =>
      have hcount : w.x.val + 1 ≤ s.v.toList.length := by
        rw [Vector.length_toList]
        exact w.x.isLt
      simp only [Memory.store?_eq _ _ hcount, Option.bind_some]
      rfl
  | loadRegisters =>
      simp only [Registers.load?_eq _ _ _ w.x.isLt, Option.bind_some, Registers.loaded,
        Nat.lt_succ_iff]
      rfl
  | _ => simp [act]

/-- **No instruction is refused.** -/
theorem execute?_eq (ins : Instruction) (input : Input) :
    ins.execute? w input s = some (ins.execute w input s) :=
  act?_eq w s.advance ins input

end Instruction

end ChipVm
