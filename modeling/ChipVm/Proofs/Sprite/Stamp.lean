import ChipVm.Proofs.Execution.Validity
import ChipVm.Proofs.Instruction.Table
import ChipVm.Proofs.Memory.Block
import Mathlib.Data.List.ProdSigma
import Mathlib.Data.List.Nodup

/-!
# What a sprite leaves on the screen

A sprite is drawn cell by cell, eight cells in a row, and the screen changes while it is drawn.  But
a sprite is no wider than eight cells and has at most fifteen rows, and the screen is larger than
that in both directions.  So no cell is reached twice, wherever the sprite begins and however it
goes around the edges.  Each cell is combined with one bit of the sprite or with none, and each
collision is with a cell as it was before the drawing.

What lies at a cell is found from the cell: how far it is to the right of the sprite's first column
and below its first row, counted around the screen.

* `Stroke`, `Drawing.lay` — one cell of a sprite on one cell of the screen, and many of them.
* `Drawing.pixel_lay_of_mem`, `Drawing.collision_lay` — strokes on different cells.
* `Sprite.strokes` — those of a sprite; `Sprite.nodup_strokes` — no two of them share a cell.
* `Screen.behind`, `Sprite.stamp` — the bit of a sprite at a cell.
* **`Sprite.pixel_draw`**, **`Sprite.collision_draw`** — a drawn sprite, cell by cell.
* **`State.drawing_exact`** — the same for the instruction that draws.
-/

namespace ChipVm

/-- One cell of a sprite, to be laid on one cell of the screen. -/
structure Stroke where
  cell : Fin displaySize
  bit : UInt8

/-! ## Bytes of a sprite -/

namespace Memory

/-- The byte with a number, where the bytes of memory are numbered around. -/
def byteAt (m : Memory) (k : Nat) : UInt8 :=
  m.get ⟨k % memorySize, Nat.mod_lt _ (by decide)⟩

lemma read_add_ofNat (m : Memory) (a : UInt16) (k : Nat) :
    m.read (a + UInt16.ofNat k) = m.byteAt (a.toNat + k) :=
  congrArg m.get (cell_add_ofNat a k)

end Memory

/-! ## Strokes -/

/-- A lit cell went out. -/
def Display.Erased (before after : Display) : Prop := ∃ k, before.pixel k = 1 ∧ after.pixel k = 0

namespace Drawing

/-- Lays strokes on the screen, one after the other. -/
def lay (d : Drawing) (strokes : List Stroke) : Drawing :=
  strokes.foldl (fun d stroke => d.flip stroke.cell stroke.bit) d

@[simp] lemma lay_nil (d : Drawing) : d.lay [] = d := rfl

@[simp] lemma lay_cons (d : Drawing) (stroke : Stroke) (strokes : List Stroke) :
    d.lay (stroke :: strokes) = (d.flip stroke.cell stroke.bit).lay strokes := rfl

/-- A cell that no stroke is for stays. -/
lemma pixel_lay_of_forall_ne {strokes : List Stroke} {j : Fin displaySize}
    (h : ∀ stroke ∈ strokes, stroke.cell ≠ j) (d : Drawing) :
    (d.lay strokes).display.pixel j = d.display.pixel j := by
  induction strokes generalizing d with
  | nil => rfl
  | cons stroke strokes ih =>
      obtain ⟨hne, hrest⟩ := List.forall_mem_cons.mp h
      rw [lay_cons, ih hrest, pixel_flip, if_neg hne]

/-- **If no two strokes share a cell,** the bit of each is combined with the cell as it was. -/
lemma pixel_lay_of_mem {strokes : List Stroke} (hnodup : (strokes.map Stroke.cell).Nodup)
    {stroke : Stroke} (h : stroke ∈ strokes) (d : Drawing) :
    (d.lay strokes).display.pixel stroke.cell = d.display.pixel stroke.cell ^^^ stroke.bit := by
  induction strokes generalizing d with
  | nil => exact absurd h List.not_mem_nil
  | cons first strokes ih =>
      rw [List.map_cons, List.nodup_cons, List.mem_map, not_exists] at hnodup
      obtain ⟨hfirst, hnodup⟩ := hnodup
      rcases List.mem_cons.mp h with rfl | hrest
      · have hlater : ∀ other ∈ strokes, other.cell ≠ stroke.cell :=
          fun other ho he => hfirst other ⟨ho, he⟩
        rw [lay_cons, pixel_lay_of_forall_ne hlater, pixel_flip, if_pos rfl]
      · have hne : first.cell ≠ stroke.cell := fun he => hfirst stroke ⟨hrest, he.symm⟩
        rw [lay_cons, ih hnodup hrest, pixel_flip, if_neg hne]

/-- A collision so far and one that a stroke adds. -/
lemma or_and_eq_one_iff {c a b : UInt8} (hc : c ≤ 1) (ha : a ≤ 1) (hb : b ≤ 1) :
    c ||| (a &&& b) = 1 ↔ c = 1 ∨ a = 1 ∧ b = 1 := by
  rcases eq_zero_or_one_of_le hc with rfl | rfl <;>
    rcases eq_zero_or_one_of_le ha with rfl | rfl <;>
      rcases eq_zero_or_one_of_le hb with rfl | rfl <;> decide

lemma or_and_le_one {c a b : UInt8} (hc : c ≤ 1) (ha : a ≤ 1) (hb : b ≤ 1) :
    c ||| (a &&& b) ≤ 1 := by
  rcases eq_zero_or_one_of_le hc with rfl | rfl <;>
    rcases eq_zero_or_one_of_le ha with rfl | rfl <;>
      rcases eq_zero_or_one_of_le hb with rfl | rfl <;> decide

/-- **If no two strokes share a cell,** a drawing has collided if it had before or if a lit stroke
is for a cell that was lit before. -/
lemma collision_lay {strokes : List Stroke} (hnodup : (strokes.map Stroke.cell).Nodup)
    (hbits : ∀ stroke ∈ strokes, stroke.bit ≤ 1) {d : Drawing} (hd : d.Binary)
    (hc : d.collision ≤ 1) :
    (d.lay strokes).collision ≤ 1 ∧ ((d.lay strokes).collision = 1 ↔ d.collision = 1 ∨
      ∃ stroke ∈ strokes, stroke.bit = 1 ∧ d.display.pixel stroke.cell = 1) := by
  induction strokes generalizing d with
  | nil => simpa using hc
  | cons first strokes ih =>
      rw [List.map_cons, List.nodup_cons, List.mem_map, not_exists] at hnodup
      obtain ⟨hfirst, hnodup⟩ := hnodup
      obtain ⟨hbit, hbits⟩ := List.forall_mem_cons.mp hbits
      obtain ⟨hle, hiff⟩ := ih hnodup hbits (hd.flip first.cell hbit)
        (or_and_le_one hc hbit (hd first.cell))
      -- The first stroke does not reach the cells of the others.
      have hrest : ∀ stroke ∈ strokes, (d.flip first.cell first.bit).display.pixel stroke.cell =
          d.display.pixel stroke.cell := by
        intro stroke hs
        have hne : first.cell ≠ stroke.cell := fun he => hfirst stroke ⟨hs, he.symm⟩
        rw [pixel_flip, if_neg hne]
      have hlater : (∃ stroke ∈ strokes, stroke.bit = 1 ∧
          (d.flip first.cell first.bit).display.pixel stroke.cell = 1) ↔
          ∃ stroke ∈ strokes, stroke.bit = 1 ∧ d.display.pixel stroke.cell = 1 :=
        exists_congr fun stroke => and_congr_right fun hs => by rw [hrest stroke hs]
      refine ⟨hle, ?_⟩
      rw [lay_cons, hiff, hlater, flip, or_and_eq_one_iff hc hbit (hd first.cell), or_assoc]
      simp

end Drawing

/-! ## The strokes of a sprite -/

namespace Screen

/-- How far a column or a row of the screen is behind another one, counted around the screen. -/
def behind (size place : Nat) (start : UInt8) : Nat :=
  (((place : Int) - (start.toNat : Int)) % (size : Int)).toNat

/-- The cell that is `dx` columns and `dy` rows behind the cell at `x` and `y`. -/
lemma cellAt_eq_iff {column row dx dy : Nat} (x y : UInt8) (hcolumn : column < displayWidth)
    (hrow : row < displayHeight) (hdx : dx < displayWidth) (hdy : dy < displayHeight) :
    cellAt (x.toNat + dx) (y.toNat + dy) = cellAt column row ↔
      dx = behind displayWidth column x ∧ dy = behind displayHeight row y := by
  simp only [displayWidth, displayHeight] at hcolumn hrow hdx hdy
  simp only [cellAt, behind, displayWidth, displayHeight, Fin.mk.injEq]
  omega

end Screen

namespace Sprite

/-- The stroke of the cell in a row and a column of a sprite. -/
def stroke (memory : Memory) (i : UInt16) (x y : UInt8) (place : Nat × Nat) : Stroke where
  cell := Screen.cellAt (x.toNat + place.2) (y.toNat + place.1)
  bit := pixel (memory.read (i + UInt16.ofNat place.1)) place.2

/-- The strokes of a sprite, row by row. -/
def strokes (memory : Memory) (i : UInt16) (x y : UInt8) (height : Nat) : List Stroke :=
  (List.range height ×ˢ List.range 8).map (stroke memory i x y)

variable (memory : Memory) (i : UInt16) (x y : UInt8) {height : Nat} (display : Display)

/-- To draw a sprite is to lay its strokes. -/
lemma draw_eq_lay (height : Nat) : draw memory i x y height display =
    (Drawing.start display).lay (strokes memory i x y height) := by
  simp only [draw, drawRow, Drawing.lay, strokes, stroke, SProd.sprod, List.product,
    List.foldl_map, List.foldl_flatMap]

lemma mem_strokes {dx dy : Nat} (hdx : dx < 8) (hdy : dy < height) :
    stroke memory i x y (dy, dx) ∈ strokes memory i x y height :=
  List.mem_map_of_mem (List.mem_product.mpr ⟨List.mem_range.mpr hdy, List.mem_range.mpr hdx⟩)

lemma exists_of_mem_strokes {s : Stroke} (h : s ∈ strokes memory i x y height) :
    ∃ dx < 8, ∃ dy < height, s = stroke memory i x y (dy, dx) := by
  obtain ⟨⟨dy, dx⟩, hplace, rfl⟩ := List.mem_map.mp h
  obtain ⟨hdy, hdx⟩ := List.mem_product.mp hplace
  exact ⟨dx, List.mem_range.mp hdx, dy, List.mem_range.mp hdy, rfl⟩

/-- The height of a sprite is one digit of a word, so that no sprite is higher than the screen. -/
lemma le_displayHeight (h : height < 16) : height ≤ displayHeight :=
  Nat.le_of_lt (Nat.lt_of_lt_of_le h (by decide))

/-- **No two strokes of a sprite share a cell,** as long as the sprite is no higher than the
screen. -/
lemma nodup_strokes (hheight : height ≤ displayHeight) :
    ((strokes memory i x y height).map Stroke.cell).Nodup := by
  rw [strokes, List.map_map]
  refine List.Nodup.map_on ?_ (List.nodup_range.product List.nodup_range)
  rintro ⟨dy, dx⟩ h ⟨dy', dx'⟩ h' hcell
  simp only [List.mem_product, List.mem_range] at h h'
  simp only [displayHeight] at hheight
  simp only [Function.comp_apply, stroke, Screen.cellAt, displayWidth, displayHeight,
    Fin.mk.injEq] at hcell
  simp only [Prod.mk.injEq]
  omega

/-! ## Cell by cell -/

/-- The bit of a sprite at a cell of the screen: that of the byte of its row and of the place in its
row, and 0 outside the sprite. -/
def stamp (height column row : Nat) : UInt8 :=
  let dx := Screen.behind displayWidth column x
  let dy := Screen.behind displayHeight row y
  if dx < 8 ∧ dy < height then
    ((memory.byteAt (i.toNat + dy)).toNat.testBit (7 - dx)).toUInt8
  else 0

lemma pixel_eq_testBit (row : UInt8) (column : Nat) :
    pixel row column = (row.toNat.testBit (7 - column)).toUInt8 := by
  have hplace : (UInt8.ofNat (7 - column)).toNat % 8 = 7 - column := by
    rw [UInt8.toNat_ofNat']
    omega
  apply UInt8.toNat_inj.mp
  rw [pixel, UInt8.toNat_and, UInt8.toNat_shiftRight, hplace]
  show row.toNat >>> (7 - column) &&& 1 = _
  rw [Nat.and_one_is_mod, Nat.shiftRight_eq_div_pow, Nat.testBit_eq_decide_div_mod_eq]
  rcases Nat.mod_two_eq_zero_or_one (row.toNat / 2 ^ (7 - column)) with h | h
  · rw [h]
    rfl
  · rw [h]
    rfl

/-- **A drawn sprite changes each cell by exclusive or with its bit there.** -/
theorem pixel_draw (hheight : height ≤ displayHeight) {column row : Nat}
    (hcolumn : column < displayWidth) (hrow : row < displayHeight) :
    (draw memory i x y height display).display.pixel (Screen.cellAt column row) =
      display.pixel (Screen.cellAt column row) ^^^ stamp memory i x y height column row := by
  rw [draw_eq_lay, stamp]
  split_ifs with h
  · obtain ⟨hdx, hdy⟩ := h
    have hmem := mem_strokes memory i x y hdx hdy
    have hcell := (Screen.cellAt_eq_iff x y hcolumn hrow (Nat.lt_trans hdx (by decide))
      (Nat.lt_of_lt_of_le hdy hheight)).mpr ⟨rfl, rfl⟩
    have hpixel := Drawing.pixel_lay_of_mem (nodup_strokes memory i x y hheight) hmem
      (Drawing.start display)
    simp only [stroke, hcell, pixel_eq_testBit, Memory.read_add_ofNat] at hpixel
    exact hpixel
  · have huntouched : ∀ s ∈ strokes memory i x y height, s.cell ≠ Screen.cellAt column row := by
      intro s hs hcell
      obtain ⟨dx, hdx, dy, hdy, rfl⟩ := exists_of_mem_strokes memory i x y hs
      obtain ⟨rfl, rfl⟩ := (Screen.cellAt_eq_iff x y hcolumn hrow (Nat.lt_trans hdx (by decide))
        (Nat.lt_of_lt_of_le hdy hheight)).mp hcell
      exact h ⟨hdx, hdy⟩
    rw [Drawing.pixel_lay_of_forall_ne huntouched, UInt8.xor_zero]
    rfl

/-- **A sprite collides if it turns off a cell of a black and white screen,** and only then. -/
theorem collision_draw (hheight : height ≤ displayHeight) (h : ∀ k, display.pixel k ≤ 1) :
    (draw memory i x y height display).collision ≤ 1 ∧
      ((draw memory i x y height display).collision = 1 ↔
        display.Erased (draw memory i x y height display).display) := by
  have hnodup := nodup_strokes memory i x y hheight
  have hbits : ∀ s ∈ strokes memory i x y height, s.bit ≤ 1 := by
    intro s hs
    obtain ⟨dx, -, dy, -, rfl⟩ := exists_of_mem_strokes memory i x y hs
    exact pixel_le _ dx
  have hstart : (Drawing.start display).collision = 0 := rfl
  obtain ⟨hle, hiff⟩ := Drawing.collision_lay hnodup hbits (d := Drawing.start display) h
    (hstart ▸ by decide)
  rw [draw_eq_lay]
  refine ⟨hle, hiff.trans ⟨?_, ?_⟩⟩
  · rintro (hzero | ⟨s, hs, hbit, hlit⟩)
    · exact absurd (hstart.symm.trans hzero) (by decide)
    · refine ⟨s.cell, hlit, ?_⟩
      rw [Drawing.pixel_lay_of_mem hnodup hs, hlit, hbit, UInt8.xor_self]
  · rintro ⟨k, hlit, hdark⟩
    right
    by_cases hstroke : ∃ s ∈ strokes memory i x y height, s.cell = k
    · obtain ⟨s, hs, rfl⟩ := hstroke
      rw [Drawing.pixel_lay_of_mem hnodup hs] at hdark
      have hbit : s.bit = 1 := (UInt8.xor_eq_zero_iff.mp hdark).symm.trans hlit
      exact ⟨s, hs, hbit, hlit⟩
    · have huntouched : ∀ s ∈ strokes memory i x y height, s.cell ≠ k :=
        fun s hs he => hstroke ⟨s, hs, he⟩
      rw [Drawing.pixel_lay_of_forall_ne huntouched] at hdark
      exact absurd (hlit.symm.trans hdark) (by decide)

end Sprite

/-! ## The instruction that draws -/

namespace State

variable {s : State} {w : Word}

/-- The drawing that the operands of a word ask for. -/
def drawing (s : State) (w : Word) : Drawing :=
  Sprite.draw s.memory s.i (s.v.read w.x) (s.v.read w.y) w.n s.display

/-- The state after the instruction that draws. -/
def drawn (s : State) (w : Word) : State :=
  { s.advance with display := (s.drawing w).display }.setV flagRegister (s.drawing w).collision

@[simp] lemma display_drawn (s : State) (w : Word) :
    (s.drawn w).display = (s.drawing w).display := rfl

@[simp] lemma flag_drawn (s : State) (w : Word) :
    (s.drawn w).v.read flagRegister = (s.drawing w).collision :=
  Registers.read_write_self _ _ _

lemma read_drawn_of_ne {x : Fin 16} (h : x ≠ flagRegister) (s : State) (w : Word) :
    (s.drawn w).v.read x = s.v.read x := by
  rw [drawn, v_setV, Registers.read_write, if_neg h.symm]
  rfl

lemma obey_draw (hw : Instruction.draw.pattern.Fits w) (input : Input) :
    s.obey w input = .ok (s.drawn w) :=
  obey_of_fits hw

/-- The flag says whether a lit cell went out. -/
lemma flag_drawn_eq_one_iff (hbinary : ∀ k, s.display.pixel k ≤ 1) (w : Word) :
    (s.drawn w).v.read flagRegister = 1 ↔ s.display.Erased (s.drawn w).display := by
  rw [flag_drawn, display_drawn]
  exact (Sprite.collision_draw _ _ _ _ s.display (Sprite.le_displayHeight w.n_lt) hbinary).2

lemma flag_drawn_eq_zero_iff (hbinary : ∀ k, s.display.pixel k ≤ 1) (w : Word) :
    (s.drawn w).v.read flagRegister = 0 ↔ ¬ s.display.Erased (s.drawn w).display := by
  have hle : (s.drawn w).v.read flagRegister ≤ 1 := by
    rw [flag_drawn]
    exact (Sprite.collision_draw _ _ _ _ s.display (Sprite.le_displayHeight w.n_lt) hbinary).1
  rw [← flag_drawn_eq_one_iff hbinary w]
  rcases eq_zero_or_one_of_le hle with h | h <;> simp [h]

/-- **The instruction that draws, cell by cell.**  Every cell of a black and white screen is
combined with the bit of the sprite there, the flag says whether a lit cell went out, and nothing
else changes. -/
theorem drawing_exact (hbinary : ∀ k, s.display.pixel k ≤ 1)
    (hw : Instruction.draw.pattern.Fits w) (input : Input) :
    ∃ t, s.obey w input = .ok t ∧
      (∀ column < displayWidth, ∀ row < displayHeight,
        t.display.pixel (Screen.cellAt column row) = s.display.pixel (Screen.cellAt column row) ^^^
          Sprite.stamp s.memory s.i (s.v.read w.x) (s.v.read w.y) w.n column row) ∧
      (t.v.read flagRegister = 1 ↔ s.display.Erased t.display) ∧
      (t.v.read flagRegister = 0 ↔ ¬ s.display.Erased t.display) ∧
      (∀ x ≠ flagRegister, t.v.read x = s.v.read x) ∧
      t = { s.advance with v := t.v, display := t.display } := by
  refine ⟨s.drawn w, obey_draw hw input, ?_, flag_drawn_eq_one_iff hbinary w,
    flag_drawn_eq_zero_iff hbinary w, fun x hx => read_drawn_of_ne hx s w, rfl⟩
  intro column hcolumn row hrow
  exact Sprite.pixel_draw _ _ _ _ _ (Sprite.le_displayHeight w.n_lt) hcolumn hrow

/-- The digit `0` drawn in the lower right corner, with the flag register as a coordinate, goes on
in the other three corners. -/
theorem drawing_exact_corner :
    let s := { State.fresh with v := (Registers.zero.write 0 62).write flagRegister 31 }
    (∀ k, s.display.pixel k ≤ 1) ∧ Instruction.draw.pattern.Fits 0xD0F5 ∧
      ∃ t, s.obey 0xD0F5 ⟨Keypad.released, 0⟩ = .ok t ∧
        t.display.pixel (Screen.cellAt 62 31) = 1 ∧ t.display.pixel (Screen.cellAt 1 31) = 1 ∧
        t.display.pixel (Screen.cellAt 62 0) = 1 ∧ t.display.pixel (Screen.cellAt 0 0) = 0 ∧
        t.v.read flagRegister = 0 := by
  intro s
  have hdark : ∀ k, s.display.pixel k = 0 := Display.pixel_dark
  have hbinary : ∀ k, s.display.pixel k ≤ 1 := fun k => hdark k ▸ by decide
  have hw : Instruction.draw.pattern.Fits 0xD0F5 := Pattern.fits_lead.mpr rfl
  obtain ⟨t, ht, hpixel, -, hflag, -⟩ := drawing_exact hbinary hw ⟨Keypad.released, 0⟩
  refine ⟨hbinary, hw, t, ht, ?_, ?_, ?_, ?_, hflag.mpr ?_⟩
  · rw [hpixel 62 (by decide) 31 (by decide), hdark]
    decide +kernel
  · rw [hpixel 1 (by decide) 31 (by decide), hdark]
    decide +kernel
  · rw [hpixel 62 (by decide) 0 (by decide), hdark]
    decide +kernel
  · rw [hpixel 0 (by decide) 0 (by decide), hdark]
    decide +kernel
  · rintro ⟨k, hlit, -⟩
    exact absurd ((hdark k).symm.trans hlit) (by decide)

end State

end ChipVm
