import Mathlib.Tactic.Lemma

/-!
# What came last

Of the things that happen, some settle a matter and the others leave it alone.  In the end the
matter stands as the last of these has left it, or as it stood at the beginning if there was none.

* `latest` — how a matter stands in the end.
* **`latest_cons`** — a thing that happens changes how the matter stands for the rest.
* `latest_filterMap` — only things of one kind may count.
-/

namespace ChipVm

variable {α β γ : Type} (f : α → Option β)

/-- How a matter stands after things have happened.  What a thing makes of it, if anything, is given
by `f`. -/
def latest (before : β) (as : List α) : β := (as.reverse.findSome? f).getD before

@[simp] lemma latest_nil (before : β) : latest f before [] = before := rfl

/-- **What happens first is how the matter stands for the rest.** -/
lemma latest_cons (before : β) (a : α) (as : List α) :
    latest f before (a :: as) = latest f ((f a).getD before) as := by
  rw [latest, List.reverse_cons, List.findSome?_append, List.findSome?_singleton, latest]
  cases as.reverse.findSome? f <;> rfl

lemma latest_append (before : β) (as later : List α) :
    latest f before (as ++ later) = latest f (latest f before as) later := by
  induction as generalizing before with
  | nil => rfl
  | cons a as ih => rw [List.cons_append, latest_cons, latest_cons, ih]

/-- If only things of some kind count, the others need not be looked at. -/
lemma latest_filterMap {f : α → Option β} {g : γ → Option β} (kind : α → Option γ) {as : List α}
    (hf : ∀ a ∈ as, f a = (kind a).bind g) (before : β) :
    latest f before as = latest g before (as.filterMap kind) := by
  induction as generalizing before with
  | nil => rfl
  | cons a as ih =>
      obtain ⟨ha, has⟩ := List.forall_mem_cons.mp hf
      rw [latest_cons, ih has, ha]
      rcases hkind : kind a with _ | c
      · rw [List.filterMap_cons_none hkind]
        rfl
      · rw [List.filterMap_cons_some hkind, latest_cons]
        rfl

end ChipVm
