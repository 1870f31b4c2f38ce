import ChipVm.Listing
import ChipVm.Proofs.Execution.AddressSpace
import ChipVm.Proofs.Machine.Failures
import ChipVm.Proofs.Memory.Block

/-!
# Disassembly

A listing is made without executing anything, and yet it shows what will be executed: both take the
words from the same memory, and the same table says what a word stands for.  The addresses of a
listing are not cut down to the address space, the program counter may not be either, and a word may
begin in the last byte of memory and end in the first.  What counts is the cell that an address
names.

A listing leaves nothing out.  Two listings that follow each other make one, and the words of a
program, written down byte by byte, are the program.

* `Word.bytes` — a word as two bytes, the upper one first; `assemble` — those of a whole listing.
* `State.disassemble_add` — a listing can be cut in two anywhere.
* `State.cycle_described` — what a listing shows for the word that a cycle executes.
* `State.assemble_disassemble` — the bytes of a listing are those of memory.
* **`State.disassembly_faithful`** — listings agree with each other, with execution and with the
  program.
-/

namespace ChipVm

/-- The two bytes of a word, the upper one first. -/
def Word.bytes (w : Word) : List UInt8 := [(w >>> 8).toUInt8, w.toUInt8]

/-- A word has the bytes that it was made of. -/
@[simp] lemma Word.bytes_ofBytes (high low : UInt8) :
    (Word.ofBytes high low).bytes = [high, low] := by
  have hhigh := high.toNat_lt
  have hlow := low.toNat_lt
  -- The lower byte lies below the shifted upper one, so that joining the bits is adding.
  have hor : high.toNat <<< 8 ||| low.toNat = high.toNat * 256 + low.toNat := by
    rw [← Nat.shiftLeft_add_eq_or_of_lt hlow, Nat.shiftLeft_eq]
  have hword : (Word.ofBytes high low).toNat = high.toNat * 256 + low.toNat := by
    rw [Word.ofBytes, UInt16.toNat_or, UInt16.toNat_shiftLeft, UInt8.toNat_toUInt16,
      UInt8.toNat_toUInt16, show (8 : UInt16).toNat % 16 = 8 from rfl, Nat.mod_eq_of_lt, hor]
    rw [Nat.shiftLeft_eq]
    omega
  have hupper : (Word.ofBytes high low >>> 8).toUInt8 = high := by
    apply UInt8.toNat_inj.mp
    rw [UInt16.toNat_toUInt8, UInt16.toNat_shiftRight, hword,
      show (8 : UInt16).toNat % 16 = 8 from rfl, Nat.shiftRight_eq_div_pow]
    omega
  have hlower : (Word.ofBytes high low).toUInt8 = low := by
    apply UInt8.toNat_inj.mp
    rw [UInt16.toNat_toUInt8, hword]
    omega
  rw [Word.bytes, hupper, hlower]

/-- The bytes of the words of a listing, in order. -/
def assemble (lines : List Line) : List UInt8 := lines.flatMap fun line => line.word.bytes

namespace State

/-! ## Listings that follow each other -/

/-- **A listing can be cut in two anywhere.** -/
lemma disassemble_add (s : State) (start : UInt16) (a b : Nat) :
    s.disassemble start (a + b) =
      s.disassemble start a ++ s.disassemble (start + UInt16.ofNat (2 * a)) b := by
  rw [disassemble, disassemble, disassemble, List.range_add, List.map_append, List.map_map]
  refine congrArg _ (List.map_congr_left fun k _ => congrArg s.lineAt ?_)
  rw [Nat.mul_add, UInt16.ofNat_add, UInt16.add_assoc]

lemma disassemble_one (s : State) (start : UInt16) : s.disassemble start 1 = [s.lineAt start] :=
  congrArg (fun a => [s.lineAt a]) (UInt16.add_zero start)

lemma eq_lineAt_of_mem_disassemble {s : State} {start : UInt16} {count : Nat} {line : Line}
    (h : line ∈ s.disassemble start count) : line = s.lineAt line.address := by
  obtain ⟨k, -, rfl⟩ := List.mem_map.mp h
  rfl

/-! ## Listings and execution -/

/-- The word at an address depends on the cell that the address names. -/
lemma wordAt_congr (s : State) {a b : UInt16} (h : cell a = cell b) : s.wordAt a = s.wordAt b := by
  rw [wordAt, wordAt, read, read, read, read, s.memory.read_congr h,
    s.memory.read_congr (cell_add h 1)]

/-- What a cycle makes of the word that it fetches, and what a listing shows for it. -/
lemma cycle_described (s : State) (input : Input) :
    (∃ ins : Instruction, ins.pattern.Fits s.fetch ∧ s.fetch.describe = ins.mnemonic ∧
        s.cycle input = ins.execute s.fetch input s) ∨
      (∀ ins : Instruction, ¬ ins.pattern.Fits s.fetch) ∧
        ∃ fault, s.cycle input = .error fault ∧ s.fetch.describe = fault.message := by
  rw [cycle, Word.describe]
  by_cases h : ∃ ins : Instruction, ins.pattern.Fits s.fetch
  · obtain ⟨ins, hfits⟩ := h
    exact .inl ⟨ins, hfits, by rw [Instruction.ofWord?_of_fits hfits], obey_of_fits hfits⟩
  · have hnone := not_exists.mp h
    exact .inr ⟨hnone, _, obey_of_forall_not_fits hnone,
      by rw [Instruction.ofWord?_eq_none_iff.mpr hnone]⟩

/-! ## Listings and programs -/

/-- The bytes of a listing are the bytes of memory from its start on. -/
lemma assemble_disassemble (s : State) (start : UInt16) (count : Nat) :
    assemble (s.disassemble start count) =
      (List.range (2 * count)).map fun k => s.read (start + UInt16.ofNat k) := by
  induction count with
  | zero => rfl
  | succ count ih =>
      have hnext : start + UInt16.ofNat (2 * count) + 1 = start + UInt16.ofNat (2 * count + 1) := by
        rw [UInt16.ofNat_add, UInt16.add_assoc]
        rfl
      have hline : assemble [s.lineAt (start + UInt16.ofNat (2 * count))] =
          [s.read (start + UInt16.ofNat (2 * count)),
            s.read (start + UInt16.ofNat (2 * count + 1))] := by
        rw [assemble, List.flatMap_singleton, lineAt, wordAt, Word.bytes_ofBytes, hnext]
      rw [disassemble_add, assemble, List.flatMap_append, ← assemble, ← assemble, ih,
        disassemble_one, hline, Nat.mul_succ, List.range_succ, List.range_succ, List.map_append,
        List.map_append, List.append_assoc]
      rfl

/-- The words of a program of even length, written down byte by byte, are the program. -/
lemma assemble_disassemble_loadRom {rom : List UInt8} (heven : 2 ∣ rom.length)
    (hfits : rom.length ≤ maxRomSize) :
    ∃ s, State.fresh.loadRom rom = .ok s ∧
      assemble (s.disassemble programStart (rom.length / 2)) = rom := by
  refine ⟨_, if_neg (Nat.not_lt.mpr hfits), ?_⟩
  have hlength : rom.length ≤ memorySize := Nat.le_trans hfits (by decide)
  rw [assemble_disassemble, Nat.mul_div_cancel' heven]
  refine List.ext_getElem (by simp) fun k _ hk => ?_
  rw [List.getElem_map, List.getElem_range]
  exact Memory.read_store _ programStart rom hlength hk

/-- **Disassembly is faithful.**  Listings that follow each other make one.  A line at an address
that names the same cell as the program counter has the word that the next cycle executes, and shows
the instruction that this cycle executes or the fault that it ends with.  And the words of a program
of even length, written down byte by byte from where it begins, are the program. -/
theorem disassembly_faithful :
    (∀ (s : State) (start : UInt16) (a b : Nat),
      s.disassemble start (a + b) =
        s.disassemble start a ++ s.disassemble (start + UInt16.ofNat (2 * a)) b) ∧
    (∀ (s : State) (start : UInt16) (count : Nat) (line : Line) (input : Input),
      line ∈ s.disassemble start count → line.address.toNat % 4096 = s.pc.toNat % 4096 →
        line.word = s.fetch ∧
          ((∃ ins : Instruction, ins.pattern.Fits line.word ∧ line.description = ins.mnemonic ∧
              s.cycle input = ins.execute line.word input s) ∨
            (∀ ins : Instruction, ¬ ins.pattern.Fits line.word) ∧
              ∃ fault, s.cycle input = .error fault ∧ line.description = fault.message)) ∧
    ∀ rom : List UInt8, 2 ∣ rom.length → rom.length ≤ maxRomSize →
      ∃ s, State.fresh.loadRom rom = .ok s ∧
        assemble (s.disassemble programStart (rom.length / 2)) = rom := by
  refine ⟨disassemble_add, fun s start count line input hline haddress => ?_,
    fun rom => assemble_disassemble_loadRom⟩
  have hword : s.wordAt line.address = s.fetch := s.wordAt_congr (Fin.ext haddress)
  rw [eq_lineAt_of_mem_disassemble hline, lineAt, hword]
  exact ⟨rfl, s.cycle_described input⟩

/-- A program of five words, the last of which is no instruction, is put together again from its
listing.  The listing is also the one of three words and then that of the other two, and with the
program counter at `0x1206` its fourth line shows the jump that is executed next. -/
theorem disassembly_faithful_program :
    let program := [0x00, 0xE0, 0xA2, 0x0A, 0xD0, 0x15, 0x12, 0x02, 0xFF, 0xFF]
    let s := { fresh with memory := fresh.memory.store programStart program, pc := 0x1206 }
    let line := s.lineAt 0x0206
    let input := ⟨Keypad.released, 0⟩
    (∃ t, fresh.loadRom program = .ok t ∧
        assemble (t.disassemble programStart 5) = program) ∧
      s.disassemble programStart 5 = s.disassemble programStart 3 ++ s.disassemble 0x0206 2 ∧
      line ∈ s.disassemble programStart 5 ∧ line.word = s.fetch ∧
      ∃ ins : Instruction, ins.pattern.Fits line.word ∧ line.description = ins.mnemonic ∧
        s.cycle input = ins.execute line.word input s := by
  intro program s line input
  have hline : line ∈ s.disassemble programStart 5 :=
    List.mem_map.mpr ⟨3, List.mem_range.mpr (by decide), rfl⟩
  have haddress : (0x0206 : UInt16).toNat % 4096 = (0x1206 : UInt16).toNat % 4096 := by decide
  obtain ⟨hword, hcycle⟩ := disassembly_faithful.2.1 s programStart 5 line input hline haddress
  have hjump : Instruction.jump.pattern.Fits line.word :=
    Instruction.fits_of_ofWord? (by decide +kernel)
  have hlength : program.length / 2 = 5 := by decide
  have hprogram := disassembly_faithful.2.2 program (by decide) (by decide)
  rw [hlength] at hprogram
  exact ⟨hprogram, disassembly_faithful.1 s programStart 3 2, hline, hword,
    hcycle.resolve_right fun hnone => hnone.1 .jump hjump⟩

end State

end ChipVm
