import ChipVm.Listing
import ChipVm.Proofs.Bounds.Execution
import ChipVm.Proofs.Machine.Invariant
import ChipVm.Texture

/-!
# Nothing is out of bounds

What is shown of a machine, its memory as a listing and its screen as a texture, is computed with
numbers too.  A listing may begin anywhere, but the distance of its last word from its first has to
fit into sixteen bits.  A texture needs two things that are not up to the code that fills it: the
cells of the screen are black or white, which holds of every machine that can be reached, and the
buffer has as many bytes as its pitch and the height of the screen say.  That this number is an
index, as the size of every buffer is, then bounds all others.

* `State.wordAt?`, `State.disassemble?`, `listingStart?` — listings.
* `Texture.bytes?`, `Texture.upload?` — textures.
* **`State.disassemble?_eq`** — the listings that are refused.
* **`Texture.upload?_eq`** — no black and white screen is refused.
* **`Machine.nothing_out_of_bounds`** — instructions, listings and textures.
-/

namespace ChipVm

/-! ## Listings -/

namespace State

variable (s : State)

/-- The word that begins at an address, read byte by byte. -/
def wordAt? (a : UInt16) : Option Word := do
  let high ← s.memory.read? a
  let low ← s.memory.read? (a + 1)
  some (Word.ofBytes high low)

/-- The line with number `k` of a listing. -/
def lineAt? (start : UInt16) (k : Nat) : Option Line := do
  -- The number is cut down to sixteen bits first, so that only its double can be too large.
  let distance ← fits? UInt16.size (2 * (UInt16.ofNat k).toNat)
  let address := start + UInt16.ofNat distance
  let word ← s.wordAt? address
  some ⟨address, word, word.describe⟩

/-- The lines of `count` words in a row. -/
def disassemble? (start : UInt16) (count : Nat) : Option (List Line) :=
  (List.range count).mapM (s.lineAt? start)

/-- The listing that is shown for a window. -/
def listing? (window : UInt16) : Option (List Line) :=
  s.disassemble? (wordBefore window) listingLength

lemma wordAt?_eq (a : UInt16) : s.wordAt? a = some (s.wordAt a) := by
  simp only [wordAt?, Memory.read?_eq, Option.bind_eq_bind, Option.bind_some]
  rfl

lemma lineAt?_of_lt (start : UInt16) {k : Nat} (h : k < 32768) :
    s.lineAt? start k = some (s.lineAt (start + UInt16.ofNat (2 * k))) := by
  have hk : (UInt16.ofNat k).toNat = k := UInt16.toNat_ofNat_of_lt (Nat.lt_trans h (by decide))
  have hdistance : 2 * k < UInt16.size := by
    simp only [UInt16.size]
    omega
  rw [lineAt?, hk, fits?_of_lt hdistance]
  simp only [Option.bind_eq_bind, Option.bind_some, wordAt?_eq]
  rfl

/-- The first line that is too far away. -/
lemma lineAt?_eq_none (start : UInt16) : s.lineAt? start 32768 = none := rfl

/-- **A listing is refused if its last word is more than sixteen bits away,** and only then. -/
theorem disassemble?_eq (start : UInt16) (count : Nat) :
    s.disassemble? start count =
      if count ≤ 32768 then some (s.disassemble start count) else none := by
  split_ifs with hcount
  · exact mapM_eq_some fun k hk =>
      s.lineAt?_of_lt start (Nat.lt_of_lt_of_le (List.mem_range.mp hk) hcount)
  · obtain ⟨rest, rfl⟩ := Nat.exists_eq_add_of_lt (Nat.not_le.mp hcount)
    rw [disassemble?, Nat.add_assoc, List.range_add, @List.range_succ_eq_map rest, List.map_cons,
      List.mapM_append, List.mapM_cons, Nat.add_zero, lineAt?_eq_none]
    rcases (List.range 32768).mapM (s.lineAt? start) with _ | lines <;> rfl

lemma listing?_eq (window : UInt16) : s.listing? window = some (s.listing window) :=
  s.disassemble?_eq (wordBefore window) listingLength

end State

/-- Where the window begins, if it began at `last` before and the program counter is `pc`. -/
def listingStart? (last pc : UInt16) : Option UInt16 := do
  let words ← less? listingLength 2
  let reach ← fits? UInt16.size (2 * words)
  if pc < last then some pc
  else do
    let distance ← less? pc.toNat last.toNat
    some (if reach < distance then pc else last)

lemma listingStart?_eq (last pc : UInt16) :
    listingStart? last pc = some (listingStart last pc) := by
  rw [listingStart?, listingStart]
  by_cases h : pc < last
  · rw [if_pos (.inl h)]
    simp only [h, if_true]
    rfl
  · have hle : last ≤ pc := UInt16.not_lt.mp h
    have hreach : listingReach < pc - last ↔ 36 < pc.toNat - last.toNat := by
      rw [UInt16.lt_iff_toNat_lt, UInt16.toNat_sub_of_le _ _ hle]
      rfl
    simp only [h, false_or, if_false, hreach, less?_of_le (UInt16.le_iff_toNat_le.mp hle)]
    rfl

/-! ## Textures -/

namespace Texture

/-- One colour of a cell. -/
def intensity? (c : UInt8) : Option UInt8 := do
  let full ← fits? UInt8.size (c.toNat * 255)
  some (UInt8.ofNat full)

/-- The bytes of a screen, three for each cell. -/
def bytes? (frame : Display) : Option (List UInt8) :=
  (frame.toList.flatMap (List.replicate channels)).mapM intensity?

/-- How many pieces of a size a list is cut into. -/
def pieceCount (size length : Nat) : Nat := (length + size - 1) / size

/-- The piece with number `k` of a list that is cut into pieces of a size. -/
def piece (size : Nat) (bytes : List UInt8) (k : Nat) : List UInt8 :=
  (bytes.drop (k * size)).take size

/-- The buffer with bytes copied to the places from `start` to before `stop`, which have to be
places of the buffer, and as many as there are bytes. -/
def copyTo? (buffer : Array UInt8) (start stop : Nat) (bytes : List UInt8) :
    Option (Array UInt8) :=
  if start ≤ stop ∧ stop ≤ buffer.size ∧ bytes.length = stop - start then
    some (writeAt buffer start bytes)
  else none

/-- The buffer with one row laid down. -/
def writeRow? (bytes : List UInt8) (pitch : Nat) (buffer : Array UInt8) (row : Nat) :
    Option (Array UInt8) := do
  let line := piece rowSize bytes row
  let start ← fits? USize.size (row * pitch)
  let stop ← fits? USize.size (start + line.length)
  copyTo? buffer start stop line

/-- The buffer with a screen laid into it row by row. -/
def upload? (frame : Display) (pitch : Nat) (buffer : Array UInt8) : Option (Array UInt8) := do
  let bytes ← bytes? frame
  (List.range (pieceCount rowSize bytes.length)).foldlM (writeRow? bytes pitch) buffer

lemma intensity?_eq {c : UInt8} (h : c ≤ 1) : intensity? c = some (c * 255) := by
  have hle : c.toNat ≤ 1 := UInt8.le_iff_toNat_le.mp h
  have hlt : c.toNat * 255 < UInt8.size := by
    simp only [UInt8.size]
    omega
  rw [intensity?, fits?_of_lt hlt]
  simp only [Option.bind_eq_bind, Option.bind_some, UInt8.ofNat_mul, UInt8.ofNat_toNat]
  rfl

-- Any other cell would be too bright.
example : intensity? 2 = none := by decide

/-- **The bytes of a black and white screen** are those of its cells. -/
lemma bytes?_eq {frame : Display} (h : ∀ k, frame.pixel k ≤ 1) :
    bytes? frame = some (frame.toList.flatMap cellBytes) := by
  have hcells : ∀ c ∈ frame.toList.flatMap (List.replicate channels),
      intensity? c = some (c * 255) := by
    intro c hc
    obtain ⟨a, ha, hca⟩ := List.mem_flatMap.mp hc
    obtain ⟨k, hk, rfl⟩ := List.getElem_of_mem ha
    rw [(List.mem_replicate.mp hca).2]
    have hk' : k < displaySize := by simpa using hk
    exact intensity?_eq (h ⟨k, hk'⟩)
  rw [bytes?, mapM_eq_some hcells, List.map_flatMap]
  simp only [List.map_replicate]
  rfl

lemma drop_flatMap_cellBytes (cells : List UInt8) (k : Nat) :
    (cells.flatMap cellBytes).drop (k * channels) = (cells.drop k).flatMap cellBytes := by
  induction cells generalizing k with
  | nil => simp
  | cons c cells ih =>
      cases k with
      | zero => rw [Nat.zero_mul, List.drop_zero, List.drop_zero]
      | succ k =>
          rw [List.drop_succ_cons, ← ih, List.flatMap_cons, Nat.succ_mul, Nat.add_comm]
          show List.drop ((cellBytes c).length + k * channels) _ = _
          rw [List.drop_length_add_append]

lemma take_flatMap_cellBytes (cells : List UInt8) (k : Nat) :
    (cells.flatMap cellBytes).take (k * channels) = (cells.take k).flatMap cellBytes := by
  induction cells generalizing k with
  | nil => simp
  | cons c cells ih =>
      cases k with
      | zero => simp
      | succ k =>
          rw [List.take_succ_cons, List.flatMap_cons, List.flatMap_cons, ← ih, Nat.succ_mul,
            Nat.add_comm]
          show List.take ((cellBytes c).length + k * channels) _ = _
          rw [List.take_length_add_append]

/-- The pieces of the bytes of a screen are its rows. -/
lemma piece_eq_rowBytes (frame : Display) (row : Nat) :
    piece rowSize (frame.toList.flatMap cellBytes) row = rowBytes frame row := by
  rw [piece, rowBytes, rowSize, ← Nat.mul_assoc, drop_flatMap_cellBytes, take_flatMap_cellBytes]

lemma pieceCount_eq (frame : Display) :
    pieceCount rowSize (frame.toList.flatMap cellBytes).length = displayHeight := by
  rw [length_flatMap_cellBytes, Vector.length_toList]
  rfl

variable {frame : Display} {pitch : Nat} {buffer : Array UInt8}

lemma writeRow?_eq {row : Nat} (hrow : row < displayHeight) (hpitch : rowSize ≤ pitch)
    (hsize : buffer.size = displayHeight * pitch) (hlimit : buffer.size < USize.size) :
    writeRow? (frame.toList.flatMap cellBytes) pitch buffer row =
      some (writeAt buffer (row * pitch) (rowBytes frame row)) := by
  have hlength := length_rowBytes frame hrow
  have hend : (row + 1) * pitch ≤ displayHeight * pitch := Nat.mul_le_mul_right pitch hrow
  rw [Nat.succ_mul] at hend
  simp only [writeRow?, piece_eq_rowBytes]
  rw [fits?_of_lt (by omega), Option.bind_eq_bind, Option.bind_some, fits?_of_lt (by omega),
    Option.bind_some]
  exact if_pos ⟨by omega, by omega, by omega⟩

/-- **A black and white screen is laid into any buffer that is large enough** for its pitch. -/
theorem upload?_eq (hframe : ∀ k, frame.pixel k ≤ 1) (hpitch : rowSize ≤ pitch)
    (hsize : buffer.size = displayHeight * pitch) (hlimit : buffer.size < USize.size) :
    upload? frame pitch buffer = some (upload frame pitch buffer) := by
  rw [upload?, bytes?_eq hframe, Option.bind_eq_bind, Option.bind_some, pieceCount_eq]
  refine foldlM_eq_some (fun b => b.size = buffer.size) (fun b hb row hrow => ⟨?_, ?_⟩) rfl
  · exact writeRow?_eq (List.mem_range.mp hrow) hpitch (hb.trans hsize) (hb ▸ hlimit)
  · rw [size_writeAt, hb]

end Texture

/-! ## Everything -/

/-- **Nothing is out of bounds.**  With lookups and numbers that can be refused, every instruction
still does on every state and with every word what it does without them, and so do reading at an
address, finding the window of a listing, and listing it; a listing that runs on for more than
sixteen bits is the one thing that is refused.  And the screen of every machine that can be reached
is laid into any buffer that has a row for each of its rows, each of them long enough. -/
theorem Machine.nothing_out_of_bounds :
    (∀ (ins : Instruction) (w : Word) (input : Input) (s : State),
      ins.execute? w input s = some (ins.execute w input s)) ∧
    (∀ (s : State) (a : UInt16),
      s.memory.read? a = some (s.read a) ∧ s.wordAt? a = some (s.wordAt a)) ∧
    (∀ last pc : UInt16, listingStart? last pc = some (listingStart last pc)) ∧
    (∀ (s : State) (window : UInt16), s.listing? window = some (s.listing window)) ∧
    (∀ (s : State) (start : UInt16) (count : Nat), s.disassemble? start count =
      if count ≤ 32768 then some (s.disassemble start count) else none) ∧
    ∀ (m : Machine) (pitch : Nat) (buffer : Array UInt8), m.Reachable →
      Texture.rowSize ≤ pitch → buffer.size = displayHeight * pitch → buffer.size < USize.size →
        Texture.upload? m.state.display pitch buffer =
          some (Texture.upload m.state.display pitch buffer) := by
  refine ⟨fun ins w input s => ins.execute?_eq w s input,
    fun s a => ⟨s.memory.read?_eq a, s.wordAt?_eq a⟩, listingStart?_eq, State.listing?_eq,
    State.disassemble?_eq, fun m pitch buffer hm hpitch hsize hlimit => ?_⟩
  exact Texture.upload?_eq hm.sound.valid.display_le hpitch hsize hlimit

/-- A machine that has drawn a digit is shown in a buffer with three bytes behind each row. -/
theorem Machine.upload_drawn_in_bounds :
    let m := (fresh.performAll Log.silent [.loadRom [0xD0, 0x05], .advanceCpu 0]).1
    let buffer := Array.replicate 6240 (7 : UInt8)
    m.Reachable ∧ m.state.display.pixel (Screen.cellAt 3 0) = 1 ∧
      Texture.upload? m.state.display 195 buffer =
        some (Texture.upload m.state.display 195 buffer) := by
  intro m buffer
  have hm : m.Reachable := ⟨_, _, rfl⟩
  have hsize : buffer.size = 6240 := Array.size_replicate
  have hlimit : buffer.size < USize.size := by
    rw [hsize]
    exact Nat.lt_of_lt_of_le (by decide) USize.le_size
  exact ⟨hm, by decide +kernel,
    nothing_out_of_bounds.2.2.2.2.2 m 195 buffer hm (by decide) hsize hlimit⟩

end ChipVm
