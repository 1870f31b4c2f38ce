import ChipVm.Proofs.Listing.Disassembly
import Mathlib.Data.List.Nodup

/-!
# What the window shows of the program counter

The window of a listing begins at most eighteen words before the program counter, wherever it began
before, and never after it.  That the listing reaches as far as the program counter does not yet
mean that it has a line for it: the lines are a word apart, so that only every second address has
one.  A program counter that is an odd number of bytes behind the first line stands between two
lines, and it stays there for as long as the window does not move.

* `toNat_le_listingStart_add` — how far the window may lag behind.
* `State.filter_disassemble` — the lines of a listing at an address.
* `InStep` — a program counter that is a whole number of words behind the first line.
* **`State.filter_listing`** — the lines at the program counter: one if it is in step, none if not.
* `InStep.of_even` — as long as all addresses are even, it is in step.
-/

namespace ChipVm

/-! ## The window -/

lemma listingStart_eq_or (last pc : UInt16) :
    listingStart last pc = pc ∨ listingStart last pc = last := by
  unfold listingStart
  split_ifs
  · exact Or.inl rfl
  · exact Or.inr rfl

/-- **The window lags behind the program counter by eighteen words at most.** -/
lemma toNat_le_listingStart_add (last pc : UInt16) :
    pc.toNat ≤ (listingStart last pc).toNat + 36 := by
  unfold listingStart
  split_ifs with h
  · exact Nat.le_add_right _ _
  · rw [not_or, UInt16.not_lt, UInt16.not_lt] at h
    obtain ⟨hlast, hreach⟩ := h
    rw [UInt16.le_iff_toNat_le, UInt16.toNat_sub_of_le _ _ hlast] at hreach
    have hwords : listingReach.toNat = 36 := rfl
    omega

lemma toNat_wordBefore (a : UInt16) : (wordBefore a).toNat = a.toNat - 2 := by
  have htwo : (2 : UInt16).toNat = 2 := rfl
  unfold wordBefore
  split_ifs with h
  · rw [UInt16.lt_iff_toNat_lt, htwo] at h
    show 0 = _
    omega
  · rw [UInt16.toNat_sub_of_le _ _ (UInt16.not_lt.mp h), htwo]

/-! ## Lines at an address -/

/-- **An address that a listing reaches has one line if it is a whole number of words behind the
first one,** and none otherwise. -/
lemma State.filter_disassemble (s : State) {start a : UInt16} {count : Nat} (hcount : count ≤ 32768)
    (hstart : start.toNat ≤ a.toNat) (hreach : a.toNat < start.toNat + 2 * count) :
    (s.disassemble start count).filter (fun line => line.address = a) =
      if a.toNat % 2 = start.toNat % 2 then [s.lineAt a] else [] := by
  have haddress : ∀ k < count,
      start + UInt16.ofNat (2 * k) = a ↔ 2 * k = a.toNat - start.toNat := by
    intro k hk
    have ha := a.toNat_lt
    rw [← UInt16.toNat_inj, UInt16.toNat_add, UInt16.toNat_ofNat']
    omega
  have hplaces : (List.range count).filter
      (fun k => decide ((s.lineAt (start + UInt16.ofNat (2 * k))).address = a)) =
        (List.range count).filter (fun k => decide (2 * k = a.toNat - start.toNat)) :=
    List.filter_congr fun k hk => decide_eq_decide.mpr (haddress k (List.mem_range.mp hk))
  rw [disassemble, List.filter_map]
  show List.map _ ((List.range count).filter _) = _
  rw [Function.comp_def, hplaces]
  split_ifs with hparity
  · obtain ⟨e, he⟩ : ∃ e, a.toNat - start.toNat = 2 * e := ⟨(a.toNat - start.toNat) / 2, by omega⟩
    have hlt : e < count := by omega
    have honly : (List.range count).filter (fun k => decide (2 * k = 2 * e)) = [e] := by
      have hsame : ∀ k, decide (2 * k = 2 * e) = (k == e) := fun k => by
        rw [Bool.eq_iff_iff, decide_eq_true_eq, beq_iff_eq]
        omega
      simp only [hsame]
      rw [List.filter_beq, List.count_eq_one_of_mem List.nodup_range (List.mem_range.mpr hlt)]
      rfl
    rw [he, honly, List.map_singleton, (haddress e hlt).mpr he.symm]
  · have hnone : (List.range count).filter
        (fun k => decide (2 * k = a.toNat - start.toNat)) = [] := by
      refine List.filter_eq_nil_iff.mpr fun k hk => ?_
      rw [decide_eq_true_eq]
      omega
    rw [hnone, List.map_nil]

/-- The program counter is a whole number of words behind the first line of a listing. -/
def InStep (window pc : UInt16) : Prop := pc.toNat % 2 = (wordBefore window).toNat % 2

instance (window pc : UInt16) : Decidable (InStep window pc) := inferInstanceAs (Decidable (_ = _))

/-- **A listing has one line for the program counter if this is in step,** and none otherwise. -/
theorem State.filter_listing (s : State) (last pc : UInt16) :
    (s.listing (listingStart last pc)).filter (fun line => line.address = pc) =
      if InStep (listingStart last pc) pc then [s.lineAt pc] else [] := by
  have hle := UInt16.le_iff_toNat_le.mp (listingStart_le last pc)
  have hreach := toNat_le_listingStart_add last pc
  have hbefore := toNat_wordBefore (listingStart last pc)
  refine s.filter_disassemble (by decide) (by omega) ?_
  rw [listingLength]
  omega

/-- Even addresses are in step. -/
lemma InStep.of_even {window pc : UInt16} (hwindow : window.toNat % 2 = 0)
    (hpc : pc.toNat % 2 = 0) : InStep window pc := by
  rw [InStep, toNat_wordBefore]
  omega

end ChipVm
