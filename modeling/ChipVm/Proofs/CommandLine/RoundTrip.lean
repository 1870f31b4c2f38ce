import ChipVm.Proofs.CommandLine.Reading
import Mathlib.Data.List.Induction
import Mathlib.Data.List.Nodup

/-!
# What a command line says

A command line says what the choices are: each of its items says one of them, no two items say the
same one, one item names the program, and what no item says is as it is by default.  Such a line is
read as what it says, however its items are written and in whatever order they stand; and it is
refused as soon as something but the program is said again.

Items are taken in one after the other, so it is enough to know what has been taken in after some of
them.  It is the choices themselves, restricted to the kinds of these items, and therefore the same
for every order.

* `CommandLine.Item.Agrees`, `CommandLine.Spells` — what items and lines say.
* `CommandLine.Progress.restrict` — the choices of some kinds.
* `CommandLine.parse_items` — a line leads to what its items lead to, unless it repeats itself.
* **`CommandLine.parse_spelled`** — what is written down is read back, and nothing is said twice.
-/

namespace ChipVm

namespace CommandLine

/-! ## Saying -/

/-- What a value says is so. -/
def Value.Agrees (o : Options) : {s : Setting} → Value s → Prop
  | _, .scale _ n _ => o.scale = n
  | _, .clockSpeed _ n _ => o.clockSpeed = n
  | _, .stateFile file => o.stateFile = file.text

/-- What an item says is so. -/
def Item.Agrees (o : Options) : Item → Prop
  | .rom file => o.rom = file.text
  | .setting _ value => value.Agrees o
  | .paused => o.paused = true

/-- The items of a command line say what the choices are. -/
structure Spells (line : List Item) (o : Options) : Prop where
  nodup : (line.map Item.part).Nodup
  rom : .rom ∈ line.map Item.part
  agrees : ∀ item ∈ line, item.Agrees o
  scale : .setting .scale ∉ line.map Item.part → o.scale = 10
  clockSpeed : .setting .clockSpeed ∉ line.map Item.part → o.clockSpeed = 500
  stateFile : .setting .stateFile ∉ line.map Item.part → o.stateFile = "emu8-state.json"
  paused : .paused ∉ line.map Item.part → o.paused = false

variable {line written : List Item} {o : Options}

/-- The order of items does not matter for what they say. -/
lemma Spells.perm (h : Spells line o) (hperm : written.Perm line) : Spells written o where
  nodup := (hperm.map Item.part).nodup_iff.mpr h.nodup
  rom := (hperm.map Item.part).mem_iff.mpr h.rom
  agrees item hitem := h.agrees item (hperm.mem_iff.mp hitem)
  scale hnot := h.scale (mt (hperm.map Item.part).mem_iff.mpr hnot)
  clockSpeed hnot := h.clockSpeed (mt (hperm.map Item.part).mem_iff.mpr hnot)
  stateFile hnot := h.stateFile (mt (hperm.map Item.part).mem_iff.mpr hnot)
  paused hnot := h.paused (mt (hperm.map Item.part).mem_iff.mpr hnot)

/-! ## What has been taken in -/

/-- What has been read when the choices of some kinds have been taken in. -/
def Progress.restrict (o : Options) (parts : List Part) : Progress where
  rom := if .rom ∈ parts then some o.rom else none
  scale := if .setting .scale ∈ parts then some o.scale else none
  clockSpeed := if .setting .clockSpeed ∈ parts then some o.clockSpeed else none
  stateFile := if .setting .stateFile ∈ parts then some o.stateFile else none
  paused := if .paused ∈ parts then o.paused else false
  waiting := .nothing

open Progress

lemma record_restrict {item : Item} (h : item.Agrees o) (parts : List Part) :
    (restrict o parts).record item = restrict o (parts ++ [item.part]) := by
  cases item with
  | rom file => simp [restrict, record, Item.part, show o.rom = file.text from h]
  | setting form value =>
      cases value <;>
        simp [restrict, record, choose, Item.part, show _ = _ from h]
  | paused => simp [restrict, record, Item.part, show o.paused = true from h]

/-- Items that say what the choices are lead to the choices of their kinds. -/
lemma foldl_record (line : List Item) (h : ∀ item ∈ line, item.Agrees o) :
    line.foldl record Progress.start = restrict o (line.map Item.part) := by
  induction line using List.reverseRecOn with
  | nil => rfl
  | append_singleton line item ih =>
      rw [List.foldl_concat, ih fun it hit => h it (List.mem_append_left _ hit),
        record_restrict (h item List.mem_concat_self), List.map_append]
      rfl

/-- A choice that was left out is the standard one. -/
lemma getD_ite {α : Type} {c : Prop} [Decidable c] {x standard : α} (h : ¬ c → x = standard) :
    (if c then some x else none).getD standard = x := by
  split_ifs with hc
  · rfl
  · exact (h hc).symm

/-- Nothing is lost by what a line does not say. -/
lemma Spells.options_restrict (h : Spells line o) :
    (restrict o (line.map Item.part)).options = .ok o := by
  have hpaused : (if .paused ∈ line.map Item.part then o.paused else false) = o.paused := by
    split_ifs with hc
    · rfl
    · exact (h.paused hc).symm
  simp only [Progress.options, restrict, if_pos h.rom, Options.standard, getD_ite h.scale,
    getD_ite h.stateFile, hpaused]
  rw [show 1000000000 / ChipVm.clockSpeed = 500 from rfl, getD_ite h.clockSpeed]

/-! ## Whole lines -/

/-- **A line leads to what its items lead to,** unless two of them are of a kind. -/
lemma parse_items (line : List Item) (h : (line.map Item.part).count .rom ≤ 1) :
    parse (line.flatMap Item.words) =
      if (line.map Item.part).Nodup then (line.foldl record Progress.start).options
      else .error .repeated := by
  have hstart : ∀ item ∈ line, Progress.start.holds item.part = false := by
    intro item _
    cases item.part with
    | setting s => cases s <;> rfl
    | _ => rfl
  have hparse : parse (line.flatMap Item.words) =
      finish Progress.start (line.flatMap Item.words) >>= Progress.options :=
    (bind_assoc _ _ _).symm
  have hroms : Progress.start.namesRom.toNat + (line.map Item.part).count .rom ≤ 1 := by
    simpa [Progress.start, namesRom] using h
  rw [hparse, finish_items line (complete_of_nothing rfl) hroms, settle_of_nothing rfl]
  show (line.foldlM enter Progress.start >>= Progress.options) = _
  rw [foldlM_enter]
  by_cases hnodup : (line.map Item.part).Nodup
  · rw [if_pos ⟨hstart, hnodup⟩, if_pos hnodup]
    rfl
  · rw [if_neg (hnodup ·.2), if_neg hnodup]
    rfl

/-- **What is written down is read back,** however it is written and in whatever order; and nothing
but the program can be said again, in whatever way and place. -/
theorem parse_spelled (h : Spells line o) :
    (∀ written : List Item, written.Perm line → parse (written.flatMap Item.words) = .ok o) ∧
      ∀ (before after : List Item) (again : Item), (before ++ after).Perm line → again.part ≠ .rom →
        again.part ∈ line.map Item.part →
        parse ((before ++ again :: after).flatMap Item.words) = .error .repeated := by
  refine ⟨fun written hperm => ?_, fun before after again hperm hrom hagain => ?_⟩
  · have hw := h.perm hperm
    rw [parse_items written (List.nodup_iff_count_le_one.mp hw.nodup _), if_pos hw.nodup,
      foldl_record written hw.agrees, hw.options_restrict]
  · -- the kinds of the items are those of the line, and one of them once more
    have hmore : ((before ++ again :: after).map Item.part).Perm
        (again.part :: line.map Item.part) :=
      (List.perm_middle.trans (hperm.cons again)).map Item.part
    have hcount : ((before ++ again :: after).map Item.part).count .rom ≤ 1 := by
      rw [hmore.count_eq, List.count_cons_of_ne hrom]
      exact List.nodup_iff_count_le_one.mp h.nodup _
    have htwice : ¬ ((before ++ again :: after).map Item.part).Nodup := fun hn =>
      (List.nodup_cons.mp (hmore.nodup_iff.mp hn)).1 hagain
    rw [parse_items _ hcount, if_neg htwice]

/-- A line that starts a program paused, in cells of seven pixels. -/
def pausedLine : List Item :=
  [.paused, .setting (.short 's' rfl) (.scale ⟨true, 2⟩ 7 (by decide)),
    .rom ⟨"pong.ch8", by decide, by decide⟩,
    .setting .longEquals (.stateFile ⟨"a=b", by decide, by decide⟩)]

/-- Larger cells. -/
def twelvePixels : Item :=
  .setting .longEquals (.scale ⟨false, 0⟩ 12 (by decide))

/-- What the line says. -/
lemma spells_pausedLine :
    Spells pausedLine ⟨"pong.ch8", 7, 500, "a=b", true⟩ where
  nodup := by decide
  rom := by decide
  agrees := by simp [pausedLine, Item.Agrees, Value.Agrees]
  scale := by decide
  clockSpeed _ := rfl
  stateFile := by decide
  paused := by decide

/-- The line is read in this order and in another one, and no other size of a cell can be put at its
end. -/
theorem parse_spelled_paused :
    parse ["--paused", "-s", "+007", "pong.ch8", "--state-file=a=b"] =
        .ok ⟨"pong.ch8", 7, 500, "a=b", true⟩ ∧
      parse ["--state-file=a=b", "pong.ch8", "-s", "+007", "--paused"] =
        .ok ⟨"pong.ch8", 7, 500, "a=b", true⟩ ∧
      parse ["--paused", "-s", "+007", "pong.ch8", "--state-file=a=b", "--scale=12"] =
        .error .repeated :=
  ⟨(parse_spelled spells_pausedLine).1 pausedLine (.refl _),
    (parse_spelled spells_pausedLine).1 pausedLine.reverse pausedLine.reverse_perm,
    (parse_spelled spells_pausedLine).2 pausedLine [] twelvePixels
      (by rw [List.append_nil]) (by decide) (by decide)⟩

end CommandLine

end ChipVm
