import ChipVm.Proofs.Machine.Failures
import ChipVm.Proofs.Machine.Restart
import Mathlib.Data.List.DropRight

/-!
# Taking frames

A machine hands out its screen only if it may have changed since somebody took it last.  What it
remembers for this is one bit, and the bit is as good as its whole history: the screen is handed out
when it is asked for the first time, and otherwise exactly if, since it was asked for last, a
program or a saved state was taken in, the program was started over, or an instruction changed a
cell.  Operations that fail do not count.  A screen that was drawn on and wiped again does, since
each of the two instructions changed it.

Whoever is sent away empty-handed misses nothing: the screen is, cell for cell, the one that was
handed out last.

* `Machine.Refreshed` — what an operation does to the bit and to the screen.
* `Deed`, `Machine.deeds` — a history, together with the machine at each of its operations.
* **`Machine.frames_exact`** — when the screen is handed out, and what it is if not.
-/

namespace ChipVm

/-! ## What brings a new screen -/

/-- Something may have brought a new screen to a machine.  If not, the screen is what it was. -/
structure Machine.Refreshed (new : Bool) (m m' : Machine) : Prop where
  frameDue : m'.frameDue = (m.frameDue || new)
  display : new = false → m'.state.display = m.state.display

namespace Machine

/-- Nothing that matters to the screen has changed. -/
lemma refreshed_of_eq {m m' : Machine} (hdue : m'.frameDue = m.frameDue)
    (hdisplay : m'.state.display = m.state.display) : Refreshed false m m' :=
  ⟨hdue.trans (Bool.or_false _).symm, fun _ => hdisplay⟩

lemma refreshed_self (m : Machine) : Refreshed false m m := refreshed_of_eq rfl rfl

/-- A frame that is due whatever was before is a new one. -/
lemma refreshed_of_frameDue (m : Machine) {m' : Machine} (h : m'.frameDue = true) :
    Refreshed true m m' :=
  ⟨h.trans (Bool.or_true _).symm, fun h => nomatch h⟩

lemma advanceTimers_display (m : Machine) :
    m.advanceTimers.state.display = m.state.display ∧ m.advanceTimers.frameDue = m.frameDue := by
  rw [advanceTimers]
  split_ifs <;> exact ⟨rfl, rfl⟩

end Machine

/-! ## Histories -/

/-- An operation, and the machine on which it is performed. -/
structure Deed where
  machine : Machine
  log : Log
  operation : Operation

namespace Deed

/-- What comes of the operation. -/
def outcome (d : Deed) : Outcome Reply := d.machine.perform d.log d.operation

/-- The screen is asked for. -/
def asks (d : Deed) : Bool :=
  match d.operation with
  | .takeFrame => true
  | _ => false

lemma asks_eq_true_iff {d : Deed} : d.asks = true ↔ d.operation = .takeFrame := by
  rw [asks]
  split <;> simp_all

/-- The operation brings a new screen: a program or a saved state is taken in, the program is
started over, or an instruction changes a cell. -/
def renews (d : Deed) : Bool :=
  match d.operation with
  | .loadRom _ | .reset | .restore _ => d.outcome.answer.isOk
  | .advanceCpu _ => decide (d.outcome.machine.state.display ≠ d.machine.state.display)
  | _ => false

/-- The screen that is handed out, if one is. -/
def frame? (d : Deed) : Option Display :=
  match d.outcome.answer with
  | .ok (.frame display) => display
  | _ => none

end Deed

namespace Machine

variable {m : Machine} {log : Log}

/-- The operations of a history, each with the machine on which it is performed. -/
def deeds (m : Machine) (log : Log) : List Operation → List Deed
  | [] => []
  | op :: ops => ⟨m, log, op⟩ :: (m.perform log op).machine.deeds (m.perform log op).log ops

/-- What was done after the screen was asked for last; everything, if it was not. -/
def sinceAsked (history : List Deed) : List Deed := history.rtakeWhile fun d => !d.asks

/-- The screen that was handed out last. -/
def lastFrame? (history : List Deed) : Option Display := history.reverse.findSome? Deed.frame?

lemma deeds_append (m : Machine) (log : Log) (ops later : List Operation) :
    m.deeds log (ops ++ later) =
      m.deeds log ops ++
        (m.performAll log ops).1.deeds (m.performAll log ops).2 later := by
  induction ops generalizing m log with
  | nil => rfl
  | cons op ops ih => simp only [List.cons_append, deeds, performAll_cons, ih]

lemma lastFrame?_concat (history : List Deed) (d : Deed) :
    lastFrame? (history ++ [d]) = d.frame?.or (lastFrame? history) := by
  rw [lastFrame?, List.reverse_append, List.reverse_singleton, List.findSome?_append,
    List.findSome?_singleton, lastFrame?]

/-! ## One operation -/

lemma loadRom_refreshed (m : Machine) (rom : List UInt8) (log : Log) :
    Refreshed (m.loadRom rom log).answer.isOk m (m.loadRom rom log).machine := by
  rcases Nat.lt_or_ge maxRomSize rom.length with hlarge | hfits
  · rw [loadRom_of_lt hlarge]
    exact m.refreshed_self
  · rw [loadRom_of_le hfits]
    exact m.refreshed_of_frameDue rfl

lemma advanceCpu_refreshed (m : Machine) (random : UInt8) (log : Log) :
    Refreshed (decide ((m.advanceCpu random log).machine.state.display ≠ m.state.display)) m
      (m.advanceCpu random log).machine := by
  obtain ⟨_, hcpu⟩ := m.exists_advanceCpu_eq random log
  rw [hcpu]
  rcases m.state.cycle ⟨m.keys, random⟩ with fault | next
  · simpa using m.refreshed_self
  · exact ⟨rfl, fun h => by simpa using h⟩

lemma restore_refreshed (m : Machine) (text : String) (log : Log) :
    Refreshed (m.restore text log).answer.isOk m (m.restore text log).machine := by
  rw [restore]
  rcases State.restore text with fault | s
  · exact m.refreshed_self
  · exact m.refreshed_of_frameDue rfl

lemma isOk_reply (o : Outcome Unit) : o.reply.answer.isOk = o.answer.isOk := by
  rw [Outcome.reply]
  rcases o.answer with fault | ⟨⟩ <;> rfl

/-- **Unless the screen is asked for, it becomes due exactly if the operation brings a new one.** -/
lemma perform_refreshed {d : Deed} (h : d.asks = false) :
    Refreshed d.renews d.machine d.outcome.machine := by
  obtain ⟨m, log, op⟩ := d
  rw [Deed.renews, Deed.outcome]
  cases op with
  | loadRom rom =>
      simp only [perform, isOk_reply]
      exact m.loadRom_refreshed rom log
  | reset =>
      simp only [perform, isOk_reply]
      -- The program is out of the machine meanwhile, which does not matter to the screen.
      obtain ⟨hdue, hdisplay⟩ := loadRom_refreshed { m with rom := [] } m.rom log
      exact ⟨hdue, hdisplay⟩
  | advanceCpu random => exact m.advanceCpu_refreshed random log
  | advanceTimers =>
      obtain ⟨hdisplay, hdue⟩ := m.advanceTimers_display
      exact refreshed_of_eq hdue hdisplay
  | takeFrame => cases h
  | restore text =>
      simp only [perform, isOk_reply]
      exact m.restore_refreshed text log
  | press | release | save => exact refreshed_of_eq rfl rfl

/-- An answer that says nothing but success has no screen in it. -/
lemma frame?_of_reply {d : Deed} {o : Outcome Unit} (h : d.outcome = o.reply) :
    d.frame? = none := by
  rw [Deed.frame?, h, Outcome.reply]
  rcases o.answer with fault | ⟨⟩ <;> rfl

/-- Only who asks for the screen is handed one. -/
lemma frame?_of_asks_eq_false {d : Deed} (h : d.asks = false) : d.frame? = none := by
  obtain ⟨m, log, op⟩ := d
  cases op with
  | loadRom rom => exact frame?_of_reply (o := m.loadRom rom log) rfl
  | reset => exact frame?_of_reply (o := m.reset log) rfl
  | advanceCpu random => exact frame?_of_reply (o := m.advanceCpu random log) rfl
  | restore text => exact frame?_of_reply (o := m.restore text log) rfl
  | takeFrame => cases h
  | advanceTimers | press | release | save => rfl

/-- The screen is handed out if the bit says so, and then the bit is cleared. -/
lemma takeFrame_cases (m : Machine) (log : Log) :
    m.frameDue = true ∧ (Deed.mk m log .takeFrame).frame? = some m.state.display ∨
      m.frameDue = false ∧ (Deed.mk m log .takeFrame).frame? = none := by
  rw [Deed.frame?, Deed.outcome, perform, takeFrame]
  rcases m.frameDue with _ | _
  · exact .inr ⟨rfl, rfl⟩
  · exact .inl ⟨rfl, rfl⟩

lemma takeFrame_frameDue (m : Machine) : m.takeFrame.2.frameDue = false := by
  rw [takeFrame]
  split_ifs with hdue
  · rfl
  · exact Bool.eq_false_iff.mpr hdue

/-! ## Histories and the bit -/

/-- After the history there is a screen to hand out: nobody has asked for it yet, or there has been
a new one since. -/
def Awaited (history : List Deed) : Prop :=
  (∀ d ∈ history, d.asks = false) ∨ ∃ d ∈ sinceAsked history, d.renews = true

lemma awaited_concat_of_asks {d : Deed} (h : d.asks = true) (history : List Deed) :
    ¬ Awaited (history ++ [d]) := by
  rw [Awaited, sinceAsked, List.rtakeWhile_concat_neg _ _ _ (by simp [h])]
  rintro (hnever | ⟨e, he, -⟩)
  · simp [hnever d (by simp)] at h
  · cases he

lemma awaited_concat_of_not_asks {d : Deed} (h : d.asks = false) (history : List Deed) :
    Awaited (history ++ [d]) ↔ Awaited history ∨ d.renews = true := by
  rw [Awaited, Awaited, sinceAsked, sinceAsked, List.rtakeWhile_concat_pos _ _ _ (by simp [h])]
  simp only [List.mem_append, List.mem_singleton, or_imp, forall_and, forall_eq, h, and_true,
    or_and_right, exists_or, exists_eq_left, or_assoc]

/-- What the bit of a machine says after a history. -/
structure Remembers (m : Machine) (history : List Deed) : Prop where
  awaited_iff : m.frameDue = true ↔ Awaited history
  lastFrame : m.frameDue = false → lastFrame? history = some m.state.display

lemma remembers_fresh : fresh.Remembers [] where
  awaited_iff := ⟨fun _ => .inl fun _ hd => (nomatch hd), fun _ => rfl⟩
  lastFrame h := nomatch h

/-- **Every operation keeps the bit right.** -/
lemma Remembers.perform {history : List Deed} (h : m.Remembers history) (log : Log)
    (op : Operation) : (m.perform log op).machine.Remembers (history ++ [⟨m, log, op⟩]) := by
  rcases hasks : (Deed.mk m log op).asks with _ | _
  · obtain ⟨hdue, hdisplay⟩ := perform_refreshed hasks
    refine ⟨?_, fun hnone => ?_⟩
    · rw [awaited_concat_of_not_asks hasks, ← h.awaited_iff, ← Bool.or_eq_true, ← hdue]
      rfl
    · obtain ⟨hbefore, hold⟩ := Bool.or_eq_false_iff.mp (hdue.symm.trans hnone)
      rw [lastFrame?_concat, frame?_of_asks_eq_false hasks, Option.none_or, h.lastFrame hbefore]
      exact congrArg some (hdisplay hold).symm
  · obtain rfl : op = .takeFrame := Deed.asks_eq_true_iff.mp hasks
    refine ⟨?_, fun _ => ?_⟩
    · rw [iff_false_intro (awaited_concat_of_asks hasks history), iff_false, Bool.not_eq_true]
      exact m.takeFrame_frameDue
    · have hstate : (m.perform log .takeFrame).machine.state = m.state := m.takeFrame_state
      rw [lastFrame?_concat, hstate]
      rcases m.takeFrame_cases log with ⟨-, hframe⟩ | ⟨hdue, hframe⟩
      · rw [hframe, Option.some_or]
      · rw [hframe, Option.none_or, h.lastFrame hdue]

/-- **The bit is right after every history.** -/
lemma remembers_performAll (log : Log) (ops : List Operation) :
    (fresh.performAll log ops).1.Remembers (fresh.deeds log ops) := by
  induction ops using List.reverseRecOn with
  | nil => exact remembers_fresh
  | append_singleton ops op ih =>
      rw [performAll_append, deeds_append]
      exact ih.perform _ op

/-- **No change of the screen is missed.**  After any history, failed operations among them,
somebody who asks for the screen is handed the present one exactly if it is asked for the first
time, or if, since it was asked for last, a program or a saved state was taken in, the program was
started over, or an instruction changed a cell.  Otherwise there is nothing to hand out, and the
screen is the one that was handed out last. -/
theorem frames_exact (log log' : Log) (ops : List Operation) :
    let m := (fresh.performAll log ops).1
    let history := fresh.deeds log ops
    let answer := (m.perform log' .takeFrame).answer
    (answer = .ok (.frame (some m.state.display)) ↔
        (∀ d ∈ history, d.asks = false) ∨ ∃ d ∈ sinceAsked history, d.renews = true) ∧
      (answer ≠ .ok (.frame (some m.state.display)) →
        answer = .ok (.frame none) ∧ lastFrame? history = some m.state.display) := by
  intro m history answer
  obtain ⟨hawaited, hlast⟩ := remembers_performAll log ops
  have hanswer : answer = .ok (.frame (if m.frameDue then some m.state.display else none)) := by
    show Except.ok (Reply.frame m.takeFrame.1) = _
    rw [takeFrame]
    split_ifs <;> rfl
  rw [hanswer, ← Awaited, ← hawaited]
  rcases hdue : m.frameDue with _ | _
  · exact ⟨by simp, fun _ => ⟨rfl, hlast hdue⟩⟩
  · exact ⟨by simp, fun hne => absurd rfl hne⟩

/-- Taking the screen at the end of a history leaves the state as it is. -/
lemma state_performAll_takeFrame (m : Machine) (log : Log) (ops : List Operation) :
    (m.performAll log (ops ++ [.takeFrame])).1.state = (m.performAll log ops).1.state := by
  rw [performAll_append]
  exact takeFrame_state _

/-- A program draws a digit after the dark screen has been handed out.  Who asks now is handed the
digit, and who asks again gets nothing but has the digit already. -/
theorem frames_exact_drawing :
    let started := [.loadRom [0xD0, 0x05], .takeFrame]
    let drawn := started ++ [.advanceCpu 0]
    let taken := drawn ++ [.takeFrame]
    let m := (fresh.performAll Log.silent drawn).1
    let m' := (fresh.performAll Log.silent taken).1
    m.state.display.pixel (Screen.cellAt 3 0) = 1 ∧
      (m.perform Log.silent .takeFrame).answer = .ok (.frame (some m.state.display)) ∧
      (m'.perform Log.silent .takeFrame).answer = .ok (.frame none) ∧
      lastFrame? (fresh.deeds Log.silent taken) = some m.state.display := by
  intro started drawn taken
  have hdark : (fresh.performAll Log.silent started).1.state.display.pixel
      (Screen.cellAt 3 0) = 0 := by decide +kernel
  have hlit : (fresh.performAll Log.silent drawn).1.state.display.pixel
      (Screen.cellAt 3 0) = 1 := by decide +kernel
  have hdrawn : drawn = started ++ [.advanceCpu 0] := rfl
  have htaken : taken = drawn ++ [.takeFrame] := rfl
  -- From here on it does not matter which program this is.
  clear_value taken drawn started
  subst htaken
  have hnew : Awaited (fresh.deeds Log.silent drawn) := by
    rw [hdrawn, performAll_append] at hlit
    rw [hdrawn, deeds_append]
    refine (awaited_concat_of_not_asks rfl _).mpr (.inr (decide_eq_true fun hsame => ?_))
    have hpixel := congrArg (fun display : Display => display.pixel (Screen.cellAt 3 0)) hsame
    exact absurd (hlit.symm.trans (hpixel.trans hdark)) (by decide)
  have hold : ¬ Awaited (fresh.deeds Log.silent (drawn ++ [.takeFrame])) := by
    rw [deeds_append]
    exact awaited_concat_of_asks rfl _
  have hhanded := (frames_exact Log.silent Log.silent drawn).1.mpr hnew
  obtain ⟨hagain, hnothing⟩ := frames_exact Log.silent Log.silent (drawn ++ [.takeFrame])
  obtain ⟨hnone, hlast⟩ := hnothing (mt hagain.mp hold)
  rw [state_performAll_takeFrame] at hlast
  exact ⟨hlit, hhanded, hnone, hlast⟩

end Machine

end ChipVm
