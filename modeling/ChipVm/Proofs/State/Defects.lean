import ChipVm.Proofs.Text.Hexadecimal
import ChipVm.State
import Mathlib.Tactic.Common

/-!
# The first thing that is wrong with a state

`State.FirstDefect` says which defect of an invalid state is reported, without searching for it:
display cells come before the program counter and this before the return addresses, the display is
looked at from the top left on, and the stack from the outermost call on.

Whoever reads that a state was refused is told which defect this is: the place in the display and
what is there, or the address with its four digits.

* **`defect?_eq_some_iff`** — the search finds the first defect.
* **`validate_eq_ok_iff`**, **`validate_eq_error_iff`** — what becomes of a state that is
  validated.
* `Fault.message_pixel`, `Fault.message_counter`, `Fault.message_returnAddress` — what is said
  about it.
-/

namespace ChipVm

/-! ## Sentences -/

lemma addressText_eq (a : UInt16) : addressText a = "0x" ++ Word.numeral a := by
  rw [← Word.text_eq_numeral]
  rfl

namespace Fault

lemma message_invalidState (d : Defect) :
    (invalidState d).message = "Invalid state: " ++ d.message := rfl

/-- A cell of the display is named together with what it holds. -/
lemma message_pixel (index : Nat) (value : UInt8) :
    (invalidState (.pixel index value)).message =
      "Invalid state: display cell " ++ toString index ++ " is " ++ toString value.toNat ++
        ", expected 0 or 1" := by
  have hbegin : "Invalid state: display cell " = "Invalid state: " ++ "display cell " := by decide
  have hdefect : (Defect.pixel index value).message =
      "display cell " ++ toString index ++ " is " ++ toString value.toNat ++
        ", expected 0 or 1" := rfl
  rw [message_invalidState, hdefect, hbegin]
  simp only [String.append_assoc]

/-- A program counter is named by its four digits. -/
lemma message_counter (pc : UInt16) :
    (invalidState (.counter pc)).message =
      "Invalid state: pc 0x" ++ Word.numeral pc ++ " is outside the address space" := by
  have hbegin : "Invalid state: pc 0x" = "Invalid state: " ++ ("pc " ++ "0x") := by decide
  have hdefect : (Defect.counter pc).message =
      "pc " ++ addressText pc ++ " is outside the address space" := rfl
  rw [message_invalidState, hdefect, hbegin, addressText_eq]
  simp only [String.append_assoc]

/-- A return address is named by its four digits. -/
lemma message_returnAddress (address : UInt16) :
    (invalidState (.returnAddress address)).message =
      "Invalid state: return address 0x" ++ Word.numeral address ++
        " is outside the address space" := by
  have hbegin : "Invalid state: return address 0x" =
      "Invalid state: " ++ ("return address " ++ "0x") := by decide
  have hdefect : (Defect.returnAddress address).message =
      "return address " ++ addressText address ++ " is outside the address space" := rfl
  rw [message_invalidState, hdefect, hbegin, addressText_eq]
  simp only [String.append_assoc]

end Fault

/-! ## Defects -/

namespace State

/-- The defect of a state that comes before all its other ones. -/
inductive FirstDefect (s : State) : Defect → Prop
  | pixel {k : Fin displaySize} (hbefore : ∀ j < k, s.display.pixel j ≤ 1)
      (h : 1 < s.display.pixel k) : FirstDefect s (.pixel k.val (s.display.pixel k))
  | counter (hdisplay : ∀ k, s.display.pixel k ≤ 1) (h : addressMask < s.pc) :
      FirstDefect s (.counter s.pc)
  | returnAddress {inner outer : List UInt16} {a : UInt16}
      (hdisplay : ∀ k, s.display.pixel k ≤ 1) (hpc : s.pc ≤ addressMask)
      (hstack : s.stack = inner ++ a :: outer) (houter : ∀ b ∈ outer, b ≤ addressMask)
      (h : addressMask < a) : FirstDefect s (.returnAddress a)

variable {s : State} {d : Defect}

lemma pixelDefect?_eq_some_iff :
    s.pixelDefect? = some d ↔ ∃ k, (∀ j < k, s.display.pixel j ≤ 1) ∧ 1 < s.display.pixel k ∧
      d = .pixel k.val (s.display.pixel k) := by
  rw [pixelDefect?, Option.map_eq_some_iff]
  refine exists_congr fun k => ?_
  rw [List.find?_eq_some_iff_getElem, decide_eq_true_iff]
  constructor
  · rintro ⟨⟨h, i, hi, rfl, hbefore⟩, rfl⟩
    refine ⟨fun j hj => ?_, h, rfl⟩
    have hle := hbefore j.val (by simpa [Fin.lt_def] using hj)
    simpa [UInt8.not_lt] using hle
  · rintro ⟨hbefore, h, rfl⟩
    refine ⟨⟨h, k.val, by simp, by simp, fun j hj => ?_⟩, rfl⟩
    simpa [UInt8.not_lt] using hbefore ⟨j, Nat.lt_trans hj k.isLt⟩ hj

lemma counterDefect?_eq_some_iff :
    s.counterDefect? = some d ↔ addressMask < s.pc ∧ d = .counter s.pc := by
  rw [counterDefect?]
  split_ifs with h
  · simp only [h, true_and, Option.some.injEq, eq_comm]
  · simp only [h, false_and]

lemma returnDefect?_eq_some_iff :
    s.returnDefect? = some d ↔ ∃ inner a outer, s.stack = inner ++ a :: outer ∧
      (∀ b ∈ outer, b ≤ addressMask) ∧ addressMask < a ∧ d = .returnAddress a := by
  rw [returnDefect?, Option.map_eq_some_iff]
  constructor
  · rintro ⟨a, ha, rfl⟩
    rw [List.find?_eq_some_iff_append, decide_eq_true_iff] at ha
    obtain ⟨hlt, outer, inner, hstack, houter⟩ := ha
    refine ⟨inner.reverse, a, outer.reverse, ?_, fun b hb => ?_, hlt, rfl⟩
    · rw [← List.reverse_reverse s.stack, hstack]
      simp
    · simpa [UInt16.not_lt] using houter b (List.mem_reverse.mp hb)
  · rintro ⟨inner, a, outer, hstack, houter, hlt, rfl⟩
    refine ⟨a, List.find?_eq_some_iff_append.mpr ?_, rfl⟩
    refine ⟨decide_eq_true hlt, outer.reverse, inner.reverse, by simp [hstack], fun b hb => ?_⟩
    simpa [UInt16.not_lt] using houter b (List.mem_reverse.mp hb)

/-- **The search finds the first defect.** -/
theorem defect?_eq_some_iff : s.defect? = some d ↔ s.FirstDefect d := by
  constructor
  · intro h
    rw [defect?] at h
    rcases hpixel : s.pixelDefect? with _ | e
    · have hdisplay := s.pixelDefect?_eq_none_iff.mp hpixel
      rcases hcounter : s.counterDefect? with _ | e
      · have hpc := s.counterDefect?_eq_none_iff.mp hcounter
        have hreturn : s.returnDefect? = some d := by simpa [hpixel, hcounter] using h
        obtain ⟨inner, a, outer, hstack, houter, hlt, rfl⟩ := returnDefect?_eq_some_iff.mp hreturn
        exact .returnAddress hdisplay hpc hstack houter hlt
      · obtain rfl : e = d := by simpa [hpixel, hcounter] using h
        obtain ⟨hlt, rfl⟩ := counterDefect?_eq_some_iff.mp hcounter
        exact .counter hdisplay hlt
    · obtain rfl : e = d := by simpa [hpixel] using h
      obtain ⟨k, hbefore, hlt, rfl⟩ := pixelDefect?_eq_some_iff.mp hpixel
      exact .pixel hbefore hlt
  · intro h
    rw [defect?]
    cases h with
    | @pixel k hbefore h =>
        rw [pixelDefect?_eq_some_iff.mpr ⟨k, hbefore, h, rfl⟩]
        rfl
    | counter hdisplay h =>
        rw [s.pixelDefect?_eq_none_iff.mpr hdisplay, counterDefect?_eq_some_iff.mpr ⟨h, rfl⟩]
        rfl
    | returnAddress hdisplay hpc hstack houter h =>
        rw [s.pixelDefect?_eq_none_iff.mpr hdisplay, s.counterDefect?_eq_none_iff.mpr hpc,
          returnDefect?_eq_some_iff.mpr ⟨_, _, _, hstack, houter, h, rfl⟩]
        rfl

lemma validate_of_none (h : s.defect? = none) : s.validate = .ok s := by
  unfold validate
  rw [h]

lemma validate_of_some (h : s.defect? = some d) : s.validate = .error (.invalidState d) := by
  unfold validate
  rw [h]

/-- **A state that is valid is left as it is.** -/
theorem validate_eq_ok_iff {t : State} : s.validate = .ok t ↔ s = t ∧ s.Valid := by
  rw [← s.defect?_eq_none_iff]
  rcases h : s.defect? with _ | e
  · simp only [validate_of_none h, Except.ok.injEq, and_true]
  · simp only [validate_of_some h, reduceCtorEq, and_false]

/-- **Any other state is refused** with its first defect. -/
theorem validate_eq_error_iff {f : Fault} :
    s.validate = .error f ↔ ∃ d, f = .invalidState d ∧ s.FirstDefect d := by
  simp only [← defect?_eq_some_iff]
  rcases h : s.defect? with _ | e
  · simp only [validate_of_none h, reduceCtorEq, and_false, exists_false]
  · simp only [validate_of_some h, Except.error.injEq, Option.some.injEq, exists_eq_right',
      @eq_comm _ f]

lemma exists_firstDefect_iff : (∃ d, s.FirstDefect d) ↔ ¬ s.Valid := by
  rw [← s.defect?_eq_none_iff, ← ne_eq, Option.ne_none_iff_exists']
  exact exists_congr fun d => defect?_eq_some_iff.symm

end State

end ChipVm
