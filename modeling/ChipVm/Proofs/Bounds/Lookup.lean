import ChipVm.Execution
import ChipVm.Proofs.Memory.Block
import Mathlib.Tactic.Common

/-!
# Lookups that can be refused

A state is a handful of tables, and an address, an operand or a key becomes a place in one of them
by cutting bits out of it.  That the place is always in the table is built into the types of this
library, and nothing is left to be seen of it.  Here it is made visible: a table is looked up at a
plain number and refuses one that is too large, and a number that is computed is refused if it does
not fit into its type.

A function whose name ends in a question mark takes the steps of its namesake in this way.  If it
gives what its namesake gives, then none of these steps was refused.

* `fits?`, `less?` — numbers that fit into their type.
* `put?`, `Memory.read?`, `Memory.write?`, `Keypad.isHeld?`, `Font.offset?` — the tables.
* `Word.xIndex`, `Word.yIndex` — operands cut out by mask and shift.
* **`foldlM_eq_some`**, **`foldlM_range_eq_some`** — a loop is not refused if none of its turns is.
* **`Memory.store?_eq`** — a block is laid down.
* **`Registers.load?_eq`** — registers are loaded.
-/

namespace ChipVm

/-! ## Numbers -/

/-- A number that has to be below a limit. -/
def fits? (limit n : Nat) : Option Nat := if n < limit then some n else none

/-- A difference that must not be less than zero. -/
def less? (a b : Nat) : Option Nat := if b ≤ a then some (a - b) else none

lemma fits?_of_lt {limit n : Nat} (h : n < limit) : fits? limit n = some n := if_pos h

lemma less?_of_le {a b : Nat} (h : b ≤ a) : less? a b = some (a - b) := if_pos h

/-- Indices are wide enough for the numbers that occur while drawing. -/
lemma fits?_index {n : Nat} (h : n < 4096) : fits? USize.size n = some n :=
  fits?_of_lt (Nat.lt_of_lt_of_le h (Nat.le_trans (by decide) USize.le_size))

/-! ## Loops -/

section Loops

variable {α β : Type} {as : List α}

/-- **A loop is not refused if none of its turns is.**  Its turns may rely on what they keep. -/
lemma foldlM_eq_some {f : β → α → Option β} {g : β → α → β} (keeps : β → Prop)
    (hturn : ∀ b, keeps b → ∀ a ∈ as, f b a = some (g b a) ∧ keeps (g b a)) {b : β}
    (hb : keeps b) : as.foldlM f b = some (as.foldl g b) := by
  induction as generalizing b with
  | nil => rfl
  | cons a as ih =>
      obtain ⟨hfirst, hkept⟩ := hturn b hb a List.mem_cons_self
      rw [List.foldlM_cons, hfirst]
      exact ih (fun b hb a ha => hturn b hb a (List.mem_cons_of_mem _ ha)) hkept

/-- The same for a loop that counts: after each turn it is where it should be. -/
lemma foldlM_range_eq_some {f : β → Nat → Option β} (reached : Nat → β) {count : Nat}
    (hturn : ∀ k < count, f (reached k) k = some (reached (k + 1))) :
    (List.range count).foldlM f (reached 0) = some (reached count) := by
  induction count with
  | zero => rfl
  | succ count ih =>
      have hlast := hturn count (Nat.lt_succ_self count)
      rw [List.range_succ, List.foldlM_append, ih fun k hk => hturn k (Nat.lt_succ_of_lt hk)]
      simp only [Option.bind_eq_bind, Option.bind_some, List.foldlM_cons, List.foldlM_nil, hlast]
      rfl

/-- A list is not refused if none of its entries is. -/
lemma mapM_eq_some {f : α → Option β} {g : α → β}
    (h : ∀ a ∈ as, f a = some (g a)) : as.mapM f = some (as.map g) := by
  induction as with
  | nil => rfl
  | cons a as ih =>
      obtain ⟨hfirst, hrest⟩ := List.forall_mem_cons.mp h
      rw [List.mapM_cons, hfirst, ih hrest]
      rfl

end Loops

/-! ## Tables -/

/-- A table with one entry replaced. -/
def put? {α : Type} {n : Nat} (table : Vector α n) (k : Nat) (a : α) : Option (Vector α n) :=
  if h : k < n then some (table.set k a h) else none

lemma put?_of_lt {α : Type} {n k : Nat} (h : k < n) (table : Vector α n) (a : α) :
    put? table k a = some (table.set k a h) := dif_pos h

namespace Word

/-- The place of the register that the second digit names. -/
def xIndex (w : Word) : Nat := ((w &&& 0x0F00) >>> 8).toNat

/-- The place of the register that the third digit names. -/
def yIndex (w : Word) : Nat := ((w &&& 0x00F0) >>> 4).toNat

lemma xIndex_eq (w : Word) : w.xIndex = w.x.val := by
  rw [xIndex, UInt16.toNat_shiftRight, UInt16.toNat_and]
  show (w.toNat &&& 0x0F00) >>> 8 = w.toNat / 0x100 % 16
  rw [Nat.shiftRight_and_distrib, Nat.shiftRight_eq_div_pow]
  exact Nat.and_two_pow_sub_one_eq_mod _ 4

lemma yIndex_eq (w : Word) : w.yIndex = w.y.val := by
  rw [yIndex, UInt16.toNat_shiftRight, UInt16.toNat_and]
  show (w.toNat &&& 0x00F0) >>> 4 = w.toNat / 0x10 % 16
  rw [Nat.shiftRight_and_distrib, Nat.shiftRight_eq_div_pow]
  exact Nat.and_two_pow_sub_one_eq_mod _ 4

end Word

namespace Memory

variable (m : Memory) (a : UInt16)

/-- The byte at an address, of which the lower twelve bits are looked up. -/
def read? : Option UInt8 := m[(a &&& addressMask).toNat]?

/-- Memory with the byte at an address replaced. -/
def write? (b : UInt8) : Option Memory := put? m (a &&& addressMask).toNat b

/-- Memory with the first bytes of a list laid down from an address upwards, one turn for each. -/
def store? (bytes : List UInt8) (count : Nat) : Option Memory :=
  (List.range count).foldlM (fun m k => do
    let b ← bytes[k]?
    write? m (a + UInt16.ofNat k) b) m

lemma toNat_mask : (a &&& addressMask).toNat = (cell a).val := wrapAddress_toNat a

lemma read?_eq : read? m a = some (m.read a) := by
  rw [read?, toNat_mask, Vector.getElem?_eq_getElem (cell a).isLt]
  rfl

lemma write?_eq (b : UInt8) : write? m a b = some (m.write a b) := by
  simp only [write?, toNat_mask]
  exact put?_of_lt (cell a).isLt m b

/-- **A block is laid down** byte by byte. -/
lemma store?_eq {bytes : List UInt8} {count : Nat} (h : count ≤ bytes.length) :
    store? m a bytes count = some (m.store a (bytes.take count)) := by
  refine foldlM_range_eq_some (fun k => m.store a (bytes.take k)) fun k hk => ?_
  have hbyte : k < bytes.length := Nat.lt_of_lt_of_le hk h
  have htake : bytes.take (k + 1) = bytes.take k ++ [bytes[k]] := by
    rw [List.take_add_one, List.getElem?_eq_getElem hbyte]
    rfl
  rw [List.getElem?_eq_getElem hbyte, htake, store_concat,
    List.length_take_of_le (Nat.le_of_lt hbyte)]
  exact write?_eq _ _ _

end Memory

namespace Registers

/-- The registers with one of them loaded, for a block of memory that begins at an address. -/
def loadOne? (m : Memory) (a : UInt16) (v : Registers) (k : Nat) : Option Registers := do
  let b ← m.read? (a + UInt16.ofNat k)
  put? v k b

/-- The registers with the first ones loaded from an address upwards, one turn for each. -/
def load? (v : Registers) (m : Memory) (a : UInt16) (count : Nat) : Option Registers :=
  (List.range count).foldlM (loadOne? m a) v

/-- The registers with the first ones loaded. -/
def loaded (v : Registers) (m : Memory) (a : UInt16) (count : Nat) : Registers :=
  ofFn fun k => if k.val < count then m.read (a + UInt16.ofNat k.val) else v.read k

/-- **Registers are loaded** one by one. -/
lemma load?_eq (v : Registers) (m : Memory) (a : UInt16) {count : Nat} (h : count ≤ 16) :
    load? v m a count = some (v.loaded m a count) := by
  have hzero : v.loaded m a 0 = v := ext_read fun x => by simp [loaded]
  have hturn : ∀ k < count, loadOne? m a (v.loaded m a k) k = some (v.loaded m a (k + 1)) := by
    intro k hk
    have hlt : k < 16 := Nat.lt_of_lt_of_le hk h
    rw [loadOne?, Memory.read?_eq]
    refine (put?_of_lt hlt _ _).trans (congrArg some (ext_read fun x => ?_))
    refine (read_write (v.loaded m a k) ⟨k, hlt⟩ x _).trans ?_
    rw [loaded, loaded, read_ofFn, read_ofFn]
    rcases Nat.lt_trichotomy x.val k with hbelow | rfl | habove
    · rw [if_neg (Fin.ne_of_gt hbelow), if_pos hbelow, if_pos (Nat.lt_succ_of_lt hbelow)]
    · rw [if_pos rfl, if_pos (Nat.lt_succ_self _)]
    · rw [if_neg (Fin.ne_of_lt habove), if_neg (Nat.not_lt_of_lt habove),
        if_neg (Nat.not_lt.mpr habove)]
  rw [load?, ← foldlM_range_eq_some (v.loaded m a) hturn, hzero]

end Registers

namespace Keypad

/-- Whether the key is down that the lower half of a byte names. -/
def isHeld? (keys : Keypad) (b : UInt8) : Option Bool := keys[(b &&& 0xF).toNat]?

lemma toNat_nibble (b : UInt8) : (b &&& 0xF).toNat = (keyOf b).val := by
  rw [UInt8.toNat_and]
  exact Nat.and_two_pow_sub_one_eq_mod _ 4

lemma isHeld?_eq (keys : Keypad) (b : UInt8) : keys.isHeld? b = some (keys.isHeld b) := by
  rw [isHeld?, toNat_nibble, Vector.getElem?_eq_getElem (keyOf b).isLt]
  rfl

end Keypad

namespace Font

/-- Where the glyphs of the digits begin. -/
def offsets : Vector UInt16 16 := Vector.ofFn offset

/-- Where the glyph of the digit begins that the lower half of a byte names. -/
def offset? (b : UInt8) : Option UInt16 := offsets[(b &&& 0xF).toNat]?

lemma offset?_eq (b : UInt8) : offset? b = some (offset (keyOf b)) := by
  have hlt : (keyOf b).val < 16 := (keyOf b).isLt
  rw [offset?, Keypad.toNat_nibble]
  exact (Vector.getElem?_eq_getElem hlt).trans (congrArg some (Vector.getElem_ofFn hlt))

end Font

end ChipVm
