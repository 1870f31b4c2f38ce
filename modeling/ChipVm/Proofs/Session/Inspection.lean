import ChipVm.Proofs.Listing.Window
import ChipVm.Proofs.Session.Conduct

/-!
# Looking into a program again and again

Each time a program is looked into, the window of the listing is carried over from the time before,
and what is said are the lines of the listing, one of them marked, and two lines with the registers.
The window is always near enough to the program counter.  Whether the marked line is there depends
on where the program has jumped to: a program that jumps by an odd distance within the window goes
on between two lines, and then none is marked.

* `Session.inspectAll` — a session in which machines were looked into, one after the other.
* `Session.isMarked` — a text with the mark in front.
* `Session.entries_inspect`, `Session.filter_inspection_listingStart` — what is said, and what of it
  is marked.
* `Session.even_listingWindow_inspectAll` — a window that was even stays so while the addresses are.
* **`Session.jump_between_lines`** — a program whose current instruction is not shown.
* **`Session.inspection_follows_counter`** — what is shown after each of many looks.
-/

namespace ChipVm

/-- The entries of a log after several things were said at one level. -/
lemma Log.entries_foldl_write (log : Log) (level : Level) (lines : List String) :
    (lines.foldl (fun log line => log.write level line) log).entries.toList =
      log.entries.toList ++ if log.allows level then lines.map (Entry.mk level) else [] := by
  induction lines generalizing log with
  | nil => simp
  | cons line lines ih =>
      have hallows : (log.write level line).allows level = log.allows level := by
        rw [allows, allows, limit_write]
      rw [List.foldl_cons, ih, entries_write, hallows, List.append_assoc]
      split_ifs <;> rfl

namespace Session

variable (s : Session)

/-! ## What is said -/

/-- The mark stands in front of a text. -/
def isMarked (text : String) : Bool := text.toList.head? == some '>'

lemma listingWindow_inspect :
    s.inspect.listingWindow = listingStart s.listingWindow s.machine.state.pc := by
  rw [inspect, foldl_say]

/-- Looking into a program adds what is said of it to the log. -/
lemma entries_inspect : s.inspect.log.entries.toList = s.log.entries.toList ++
    if s.log.allows .info then
      (inspection s.machine.state s.inspect.listingWindow).map (Log.Entry.mk .info) else [] := by
  rw [listingWindow_inspect, inspect, foldl_say]
  exact Log.entries_foldl_write _ _ _

/-- Whether a text is marked is seen from its first character. -/
lemma isMarked_append {front : String} {c : Char} {rest : List Char} (text : String)
    (hfront : front.toList = c :: rest) : isMarked (front ++ text) = (c == '>') := by
  rw [isMarked, String.toList_append, hfront]
  rfl

/-- The line at the program counter is marked, and no other. -/
lemma isMarked_markedLine (pc : UInt16) (line : Line) :
    isMarked (markedLine pc line) = decide (line.address = pc) := by
  unfold markedLine
  split_ifs with h
  · rw [decide_eq_true h]
    exact isMarked_append line.text (show "> ".toList = ['>', ' '] from rfl)
  · rw [decide_eq_false h]
    exact isMarked_append line.text (show "  ".toList = [' ', ' '] from rfl)

lemma isMarked_countersText (state : State) : isMarked (countersText state) = false := by
  rw [countersText, String.join_cons]
  exact isMarked_append _ (show "PC: ".toList = ['P', 'C', ':', ' '] from rfl)

lemma isMarked_registersText (state : State) : isMarked (registersText state) = false := by
  rw [registersText, isMarked, String.toList_intercalate, List.finRange_succ, List.map_cons,
    List.map_cons]
  simp only [toString, String.toList_append]
  rfl

/-- Of what is said, the line at the program counter is marked. -/
lemma filter_inspection (state : State) (window : UInt16) :
    (inspection state window).filter isMarked =
      ((state.listing window).filter fun line => line.address = state.pc).map
        (markedLine state.pc) := by
  rw [inspection, List.filter_append, List.filter_map]
  simp only [Function.comp_def, isMarked_markedLine, List.filter_cons, isMarked_countersText,
    isMarked_registersText]
  simp

/-- **One line is marked if the program counter is in step,** and none otherwise. -/
lemma filter_inspection_listingStart (state : State) (last : UInt16) :
    (inspection state (listingStart last state.pc)).filter isMarked =
      if InStep (listingStart last state.pc) state.pc then
        [markedLine state.pc (state.lineAt state.pc)] else [] := by
  rw [filter_inspection, State.filter_listing]
  split_ifs <;> rfl

/-! ## One look after the other -/

/-- The session after the program was looked into in some machines, one after the other. -/
def inspectAll (s : Session) (machines : List Machine) : Session :=
  machines.foldl (fun s m => { s with machine := m }.inspect) s

lemma inspectAll_concat (machines : List Machine) (m : Machine) :
    s.inspectAll (machines ++ [m]) = { s.inspectAll machines with machine := m }.inspect := by
  rw [inspectAll, List.foldl_append]
  rfl

lemma listingWindow_inspectAll (machines : List Machine) (m : Machine) :
    (s.inspectAll (machines ++ [m])).listingWindow =
      listingStart (s.inspectAll machines).listingWindow m.state.pc := by
  rw [inspectAll_concat, listingWindow_inspect]

/-- **A window that begins at an even address keeps to even ones** while the addresses that it
follows are even. -/
lemma even_listingWindow_inspectAll {machines : List Machine}
    (hwindow : s.listingWindow.toNat % 2 = 0)
    (hmachines : ∀ m ∈ machines, m.state.pc.toNat % 2 = 0) :
    (s.inspectAll machines).listingWindow.toNat % 2 = 0 := by
  induction machines generalizing s with
  | nil => exact hwindow
  | cons m machines ih =>
      obtain ⟨hm, hrest⟩ := List.forall_mem_cons.mp hmachines
      refine ih _ ?_ hrest
      rw [listingWindow_inspect]
      rcases listingStart_eq_or s.listingWindow m.state.pc with h | h
      · rw [h]
        exact hm
      · rw [h]
        exact hwindow

/-- A program that jumps over one byte, to an instruction at an odd address. -/
def jumpingMachine : Machine :=
  (Machine.fresh.loadRom [0x12, 0x03, 0x00, 0x00, 0xE0] Log.silent).machine

/-- The same program after its jump. -/
def jumpedMachine : Machine := (jumpingMachine.advanceCpu 0 Log.silent).machine

/-- **The current instruction is not always shown.**  The program is looked into before its jump and
after it.  The window still begins where the program began, and the instruction to which it has
jumped has no line in the listing and is not marked. -/
theorem jump_between_lines :
    let t := countingFirst.inspectAll [jumpingMachine, jumpedMachine]
    countingFirst.listingWindow = 0 ∧
      jumpingMachine.state.pc = 0x0200 ∧ jumpedMachine.state.pc = 0x0203 ∧
      t.listingWindow = 0x0200 ∧
      (jumpedMachine.state.listing t.listingWindow).filter
        (fun line => line.address = jumpedMachine.state.pc) = [] ∧
      (inspection jumpedMachine.state t.listingWindow).filter isMarked = [] := by
  intro t
  have hbefore : jumpingMachine.state.pc = 0x0200 := by decide +kernel
  have hafter : jumpedMachine.state.pc = 0x0203 := by decide +kernel
  have hfirst : (countingFirst.inspectAll ([] ++ [jumpingMachine])).listingWindow = 0x0200 := by
    rw [listingWindow_inspectAll, hbefore]
    show listingStart 0 0x0200 = 0x0200
    decide
  have hwindow : t.listingWindow = listingStart 0x0200 jumpedMachine.state.pc := by
    rw [← hfirst]
    exact listingWindow_inspectAll countingFirst [jumpingMachine] jumpedMachine
  have hbetween : ¬ InStep (listingStart 0x0200 jumpedMachine.state.pc) jumpedMachine.state.pc := by
    rw [hafter]
    decide
  have hlines := jumpedMachine.state.filter_listing 0x0200 jumpedMachine.state.pc
  have hmarked := filter_inspection_listingStart jumpedMachine.state 0x0200
  rw [if_neg hbetween, ← hwindow] at hlines hmarked
  refine ⟨rfl, hbefore, hafter, ?_, hlines, hmarked⟩
  rw [hwindow, hafter]
  rfl

/-- **What is shown after each of many looks.**  A session in which the window begins at zero looks
into some machines and then into `m`.  Then the window begins at most eighteen words before the
program counter and not after it.  If the program counter is a whole number of words behind the
first line, the listing has exactly one line for it; this line is marked and no other, and its word
is what the next cycle executes.  If it is not, it stands between two lines and none is marked.  As
long as all instructions are at even addresses, the first of the two is the case. -/
theorem inspection_follows_counter (hwindow : s.listingWindow = 0) (machines : List Machine)
    (m : Machine) :
    let before := s.inspectAll machines
    let after := s.inspectAll (machines ++ [m])
    let lines := m.state.listing after.listingWindow
    let said := inspection m.state after.listingWindow
    (after.listingWindow ≤ m.state.pc ∧
      m.state.pc.toNat ≤ after.listingWindow.toNat + 36) ∧
    lines.length = listingLength ∧
    (after.log.entries.toList = before.log.entries.toList ++
      if before.log.allows .info then said.map (Log.Entry.mk .info) else []) ∧
    (InStep after.listingWindow m.state.pc →
      ∃ line, lines.filter (fun line => line.address = m.state.pc) = [line] ∧
        said.filter isMarked = [markedLine m.state.pc line] ∧ line.word = m.nextWord ∧
        ∀ input, m.state.cycle input = m.state.obey line.word input) ∧
    (¬ InStep after.listingWindow m.state.pc →
      lines.filter (fun line => line.address = m.state.pc) = [] ∧ said.filter isMarked = []) ∧
    ((∀ m' ∈ machines ++ [m], m'.state.pc.toNat % 2 = 0) →
      InStep after.listingWindow m.state.pc) := by
  intro before after lines said
  have hafter : after = { before with machine := m }.inspect := inspectAll_concat s machines m
  have hstart : after.listingWindow = listingStart before.listingWindow m.state.pc :=
    listingWindow_inspectAll s machines m
  have hlines := m.state.filter_listing before.listingWindow m.state.pc
  have hmarked := filter_inspection_listingStart m.state before.listingWindow
  rw [← hstart] at hlines hmarked
  refine ⟨⟨?_, ?_⟩, ?_, ?_, ?_, ?_, ?_⟩
  · rw [hstart]
    exact listingStart_le _ _
  · rw [hstart]
    exact toNat_le_listingStart_add _ _
  · exact length_disassemble _ _ _
  · have hentries := entries_inspect { before with machine := m }
    rwa [← hafter] at hentries
  · intro hstep
    rw [if_pos hstep] at hlines hmarked
    exact ⟨m.state.lineAt m.state.pc, hlines, hmarked, rfl, fun input => rfl⟩
  · intro hstep
    rw [if_neg hstep] at hlines hmarked
    exact ⟨hlines, hmarked⟩
  · intro heven
    have hzero : s.listingWindow.toNat % 2 = 0 := by rw [hwindow]; rfl
    exact InStep.of_even (even_listingWindow_inspectAll s hzero heven)
      (heven m (List.mem_append_right machines (List.mem_singleton_self m)))

/-- A machine that is about to execute the instruction at an address. -/
def machineAt (pc : UInt16) : Machine :=
  { Machine.fresh with state := { State.fresh with pc := pc } }

/-- A program counter that has walked to the last word of the window. -/
theorem inspection_follows_counter_last_word :
    let after := countingFirst.inspectAll ([machineAt 0x0200] ++ [machineAt 0x0224])
    countingFirst.listingWindow = 0 ∧
      (∀ m ∈ [machineAt 0x0200] ++ [machineAt 0x0224], m.state.pc.toNat % 2 = 0) ∧
      InStep after.listingWindow 0x0224 ∧
      ∃ line, ((machineAt 0x0224).state.listing after.listingWindow).filter
          (fun line => line.address = 0x0224) = [line] ∧
        (inspection (machineAt 0x0224).state after.listingWindow).filter isMarked =
          [markedLine 0x0224 line] ∧ line.word = (machineAt 0x0224).nextWord := by
  intro after
  have hwindow : countingFirst.listingWindow = 0 := rfl
  have heven : ∀ m ∈ [machineAt 0x0200] ++ [machineAt 0x0224], m.state.pc.toNat % 2 = 0 := by
    simp only [List.cons_append, List.nil_append, List.forall_mem_cons]
    exact ⟨rfl, rfl, fun m hm => absurd hm List.not_mem_nil⟩
  obtain ⟨-, -, -, hshown, -, hstep⟩ :=
    inspection_follows_counter countingFirst hwindow [machineAt 0x0200] (machineAt 0x0224)
  obtain ⟨line, hlines, hsaid, hword, -⟩ := hshown (hstep heven)
  exact ⟨hwindow, heven, hstep heven, line, hlines, hsaid, hword⟩

end Session

end ChipVm
