/-!
# Classes of characters

A class of characters beyond ASCII is data: closed ranges of code points, ascending and apart.  That
they are so is part of the type, so a class cannot hold a range twice or the wrong way round.

* `CharClass` — a class, and `CharClass.contains` — its characters.
* `CharClass.apart` — ranges that ascend and leave a gap between each two.
* **`CharClass.contains_eq_true_iff`** — a character is in the class exactly if one of the ranges
  holds its code point.
* **`CharClass.contains_eq_false_of_forall`** — a character that every range misses is not.
-/

namespace ChipVm

namespace CharClass

/-- Whether ranges ascend, each of them not empty, with a gap between each two. -/
def apart : List (Nat × Nat) → Bool
  | [] => true
  | [r] => decide (r.1 ≤ r.2)
  | r :: s :: rest => decide (r.1 ≤ r.2) && decide (r.2 + 1 < s.1) && apart (s :: rest)

end CharClass

/-- A class of characters. -/
structure CharClass where
  /-- The code points of its characters, as closed ranges. -/
  ranges : List (Nat × Nat)
  /-- The ranges ascend and are apart. -/
  ranges_apart : CharClass.apart ranges = true

namespace CharClass

/-- Whether a character is in the class. -/
def contains (k : CharClass) (c : Char) : Bool :=
  k.ranges.any fun r => decide (r.1 ≤ c.toNat) && decide (c.toNat ≤ r.2)

/-- **A character is in the class exactly if a range holds it.** -/
theorem contains_eq_true_iff (k : CharClass) (c : Char) :
    k.contains c = true ↔ ∃ r ∈ k.ranges, r.1 ≤ c.toNat ∧ c.toNat ≤ r.2 := by
  simp [contains, List.any_eq_true]

/-- **A character that every range misses is not in the class.** -/
theorem contains_eq_false_of_forall {k : CharClass} {c : Char}
    (h : ∀ r ∈ k.ranges, c.toNat < r.1 ∨ r.2 < c.toNat) : k.contains c = false := by
  rw [Bool.eq_false_iff]
  intro hc
  obtain ⟨r, hr, hlow, hhigh⟩ := (contains_eq_true_iff k c).mp hc
  rcases h r hr with hlt | hlt <;> omega

end CharClass

end ChipVm
