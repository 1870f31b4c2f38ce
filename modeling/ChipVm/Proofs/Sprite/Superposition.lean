import ChipVm.Proofs.Sprite.Stamp
import Mathlib.Algebra.Group.Nat.Even

/-!
# Sprites on top of each other

What a sprite does to a cell does not depend on the screen: it combines the cell with one bit, by
exclusive or.  Sprites that are drawn one after the other therefore add up, in whatever order they
come and however they overlap, and a sprite that is drawn twice is gone.  Programs rely on the
latter to move what they have drawn.

The flag is another matter.  It compares the screen before and after, so that it says of the second
of two equal drawings what the first one has turned on.

* `Placement` — a sprite and where it is drawn; `Placement.draw`, `Placement.drawAll` — the screen
  after one of them, and after a list of them.
* `Placement.pixel_draw_cell` — one cell, and the bit it is combined with.
* **`Placement.drawAll_perm`** — the order does not count.
* **`Placement.drawAll_of_even`** — pairs cancel.
* **`State.sprites_superpose`** — both, and the instruction that draws executed twice.
-/

namespace ChipVm

/-- A sprite to be drawn: the column and the row where it begins, where its bytes begin in memory,
and how many there are. -/
structure Placement where
  x : UInt8
  y : UInt8
  i : UInt16
  height : Fin 16
  deriving DecidableEq

namespace Placement

variable (memory : Memory)

/-- The screen after a sprite was drawn. -/
def draw (p : Placement) (display : Display) : Display :=
  (Sprite.draw memory p.i p.x p.y p.height.val display).display

/-- The screen after some sprites were drawn, one after the other. -/
def drawAll (display : Display) (sprites : List Placement) : Display :=
  sprites.foldl (fun display p => p.draw memory display) display

/-- The bit of a sprite at the cell with a number. -/
def bitAt (p : Placement) (k : Fin displaySize) : UInt8 :=
  Sprite.stamp memory p.i p.x p.y p.height.val (k.val % displayWidth) (k.val / displayWidth)

@[simp] lemma drawAll_cons (display : Display) (p : Placement) (sprites : List Placement) :
    drawAll memory display (p :: sprites) = drawAll memory (p.draw memory display) sprites := rfl

/-- **Each cell is combined with a bit that does not depend on the screen.** -/
lemma pixel_draw_cell (p : Placement) (display : Display) (k : Fin displaySize) :
    (p.draw memory display).pixel k = display.pixel k ^^^ p.bitAt memory k := by
  have hk : k.val < 2048 := k.isLt
  have hcolumn : k.val % displayWidth < displayWidth := Nat.mod_lt _ (by decide)
  have hrow : k.val / displayWidth < displayHeight := by
    simp only [displayWidth, displayHeight]
    omega
  have hcell : Screen.cellAt (k.val % displayWidth) (k.val / displayWidth) = k := by
    simp only [Screen.cellAt, displayWidth, displayHeight, Fin.ext_iff]
    omega
  have hdraw := Sprite.pixel_draw memory p.i p.x p.y display (Sprite.le_displayHeight p.height.isLt)
    hcolumn hrow
  rwa [hcell] at hdraw

/-- Of two sprites, either one may come first. -/
lemma draw_comm (p q : Placement) (display : Display) :
    q.draw memory (p.draw memory display) = p.draw memory (q.draw memory display) := by
  refine Display.ext_pixel fun k => ?_
  simp only [pixel_draw_cell]
  rw [UInt8.xor_assoc, UInt8.xor_comm (p.bitAt memory k), ← UInt8.xor_assoc]

/-- **A sprite that is drawn twice is gone.** -/
lemma draw_draw (p : Placement) (display : Display) :
    p.draw memory (p.draw memory display) = display := by
  refine Display.ext_pixel fun k => ?_
  simp only [pixel_draw_cell]
  rw [UInt8.xor_assoc, UInt8.xor_self, UInt8.xor_zero]

/-- **The order of the sprites does not count.** -/
theorem drawAll_perm {sprites others : List Placement} (h : sprites.Perm others)
    (display : Display) : drawAll memory display sprites = drawAll memory display others :=
  h.foldl_eq' (fun p _ q _ display => draw_comm memory p q display) display

/-- **Sprites that come in pairs cancel,** whatever comes between the two of a pair. -/
theorem drawAll_of_even (display : Display) : ∀ sprites : List Placement,
    (∀ p ∈ sprites, Even (sprites.count p)) → drawAll memory display sprites = display
  | [], _ => rfl
  | p :: sprites, h => by
      have hp : p ∈ sprites := by
        have heven := h p List.mem_cons_self
        rw [List.count_cons_self, Nat.even_add_one] at heven
        refine List.count_pos_iff.mp (Nat.pos_of_ne_zero fun hzero => heven ?_)
        rw [hzero]
        exact Even.zero
      have hrest : ∀ q ∈ sprites.erase p, Even ((sprites.erase p).count q) := by
        intro q hq
        have heven := h q (List.mem_cons_of_mem p (List.mem_of_mem_erase hq))
        have hcount := (List.perm_cons_erase hp).count_eq q
        rw [List.count_cons, hcount, List.count_cons] at heven
        split_ifs at heven
        · rwa [Nat.even_add_one, Nat.even_add_one, not_not] at heven
        · exact heven
      have hpair : (p :: sprites).Perm (p :: p :: sprites.erase p) :=
        (List.perm_cons_erase hp).cons p
      rw [drawAll_perm memory hpair, drawAll_cons, drawAll_cons, draw_draw]
      exact drawAll_of_even display (sprites.erase p) hrest
termination_by sprites => sprites.length
decreasing_by
  rw [List.length_cons, List.length_erase_of_mem hp]
  omega

end Placement

/-! ## The instruction that draws -/

namespace State

variable {s : State} {w : Word}

/-- The sprite that the operands of a word name. -/
def placement (s : State) (w : Word) : Placement where
  x := s.v.read w.x
  y := s.v.read w.y
  i := s.i
  height := ⟨w.n, w.n_lt⟩

lemma display_drawn_eq_draw (s : State) (w : Word) :
    (s.drawn w).display = (s.placement w).draw s.memory s.display := rfl

/-- Drawing changes no operand of its own, unless the flag register is one. -/
lemma placement_drawn (hx : w.x ≠ flagRegister) (hy : w.y ≠ flagRegister) :
    (s.drawn w).placement w = s.placement w := by
  simp only [placement, read_drawn_of_ne hx, read_drawn_of_ne hy]
  rfl

/-- **Drawing twice restores the screen.** -/
lemma display_drawn_drawn (hx : w.x ≠ flagRegister) (hy : w.y ≠ flagRegister) :
    ((s.drawn w).drawn w).display = s.display := by
  rw [display_drawn_eq_draw, placement_drawn hx hy, display_drawn_eq_draw]
  exact Placement.draw_draw s.memory _ s.display

/-- The second of two equal drawings collides with what the first one has turned on. -/
lemma flag_drawn_drawn (hx : w.x ≠ flagRegister) (hy : w.y ≠ flagRegister)
    (hbinary : ∀ k, s.display.pixel k ≤ 1) :
    ((s.drawn w).drawn w).v.read flagRegister = 1 ↔
      ∃ k, s.display.pixel k = 0 ∧ (s.drawn w).display.pixel k = 1 := by
  have hdrawn : ∀ k, (s.drawn w).display.pixel k ≤ 1 := Drawing.Binary.draw hbinary _ _ _ _ _
  rw [flag_drawn_eq_one_iff hdrawn, display_drawn_drawn hx hy, Display.Erased]
  exact exists_congr fun k => and_comm

/-- **Sprites superpose.**  What the instruction that draws does to the screen is determined by
where the sprite begins, where its bytes are and how many there are.  If several sprites are drawn,
their order does not count, and those that are drawn an even number of times leave no trace.
Executing the same drawing twice restores the screen, and the flag then says whether the first of
the two has turned on a cell. -/
theorem sprites_superpose :
    (∀ (s : State) (w : Word) (input : Input), Instruction.draw.pattern.Fits w →
      ∃ t, s.obey w input = .ok t ∧ t.display = (s.placement w).draw s.memory s.display) ∧
    (∀ (memory : Memory) (display : Display) (sprites others : List Placement),
      sprites.Perm others →
        Placement.drawAll memory display sprites = Placement.drawAll memory display others) ∧
    (∀ (memory : Memory) (display : Display) (sprites : List Placement),
      (∀ p ∈ sprites, Even (sprites.count p)) →
        Placement.drawAll memory display sprites = display) ∧
    ∀ (s : State) (w : Word) (input input' : Input), Instruction.draw.pattern.Fits w →
      w.x ≠ flagRegister → w.y ≠ flagRegister → (∀ k, s.display.pixel k ≤ 1) →
        ∃ t u, s.obey w input = .ok t ∧ t.obey w input' = .ok u ∧ u.display = s.display ∧
          (u.v.read flagRegister = 1 ↔ ∃ k, s.display.pixel k = 0 ∧ t.display.pixel k = 1) := by
  refine ⟨?_, ?_, ?_, ?_⟩
  · intro s w input hw
    exact ⟨s.drawn w, obey_draw hw input, s.display_drawn_eq_draw w⟩
  · intro memory display sprites others h
    exact Placement.drawAll_perm memory h display
  · intro memory display sprites h
    exact Placement.drawAll_of_even memory display sprites h
  · intro s w input input' hw hx hy hbinary
    exact ⟨s.drawn w, (s.drawn w).drawn w, obey_draw hw input, obey_draw hw input',
      display_drawn_drawn hx hy, flag_drawn_drawn hx hy hbinary⟩

/-- Two sprites that overlap around a corner of the screen. -/
theorem sprites_superpose_corner :
    let p : Placement := ⟨62, 31, 0, 5⟩
    let q : Placement := ⟨60, 30, 0x1001, 15⟩
    let s := { State.fresh with v := (Registers.zero.write 0 62).write 1 31 }
    ([p, q].Perm [q, p] ∧
      Placement.drawAll s.memory s.display [p, q] = Placement.drawAll s.memory s.display [q, p]) ∧
    ((∀ r ∈ [p, q, p, q], Even ([p, q, p, q].count r)) ∧
      Placement.drawAll s.memory s.display [p, q, p, q] = s.display) ∧
    (Instruction.draw.pattern.Fits 0xD015 ∧ Word.x 0xD015 ≠ flagRegister ∧
      Word.y 0xD015 ≠ flagRegister ∧ (∀ k, s.display.pixel k ≤ 1) ∧
      ∃ t u, s.obey 0xD015 ⟨Keypad.released, 0⟩ = .ok t ∧
        t.obey 0xD015 ⟨Keypad.released, 0⟩ = .ok u ∧ t.display = p.draw s.memory s.display ∧
        u.display = s.display ∧ u.v.read flagRegister = 1) := by
  intro p q s
  obtain ⟨hdraw, horder, heven, htwice⟩ := sprites_superpose
  have hperm : [p, q].Perm [q, p] := List.Perm.swap q p []
  have hpairs : ∀ r ∈ [p, q, p, q], Even ([p, q, p, q].count r) := by decide
  have hw : Instruction.draw.pattern.Fits 0xD015 := Pattern.fits_lead.mpr rfl
  have hx : Word.x 0xD015 ≠ flagRegister := by decide
  have hy : Word.y 0xD015 ≠ flagRegister := by decide
  have hdark : ∀ k, s.display.pixel k = 0 := Display.pixel_dark
  have hbinary : ∀ k, s.display.pixel k ≤ 1 := fun k => hdark k ▸ by decide
  obtain ⟨t, u, ht, hu, hrestored, hflag⟩ :=
    htwice s 0xD015 ⟨Keypad.released, 0⟩ ⟨Keypad.released, 0⟩ hw hx hy hbinary
  obtain ⟨t', ht', hdisplay⟩ := hdraw s 0xD015 ⟨Keypad.released, 0⟩ hw
  obtain rfl : t' = t := Except.ok.inj (ht'.symm.trans ht)
  have hcorner : t'.display.pixel (Screen.cellAt 62 31) = 1 := by
    rw [hdisplay, Placement.pixel_draw_cell, hdark]
    decide +kernel
  exact ⟨⟨hperm, horder _ _ _ _ hperm⟩, ⟨hpairs, heven _ _ _ hpairs⟩, hw, hx, hy, hbinary, t', u,
    ht, hu, hdisplay, hrestored, hflag.mpr ⟨_, hdark _, hcorner⟩⟩

end State

end ChipVm
