import ChipVm.Text.Hex
import ChipVm.Word
import Mathlib.Algebra.Group.Nat.Defs
import Mathlib.Tactic.Common

/-!
# The digits of a word

A word is written with four digits, one for each of its fields, and the fields are read off the
numeral from left to right.

* `Hex.digit` — the digit with a value below sixteen.
* `Hex.padded_add_two` — a numeral grows at its end.
* `Hex.padded_append_inj` — a numeral and the number that it stands for.
* **`Hex.padded_word`** — the numeral of a word has the four digits of the word.
* `Word.numeral` — the same as a text.
-/

namespace ChipVm

namespace Hex

/-- The digits, the lowest first. -/
def alphabet : List Char :=
  ['0', '1', '2', '3', '4', '5', '6', '7', '8', '9', 'A', 'B', 'C', 'D', 'E', 'F']

/-- The digit with the given value. -/
def digit (value : Fin 16) : Char := alphabet.get (value.cast rfl)

lemma toUpper_digitChar (value : Fin 16) : (Nat.digitChar value).toUpper = digit value := by
  revert value
  decide

lemma digits_of_lt {n : Nat} (h : n < 16) : digits n = [digit ⟨n, h⟩] := by
  rw [digits, Nat.toDigits_of_lt_base h, List.map_singleton, toUpper_digitChar ⟨n, h⟩]

/-- The last digit of a number. -/
def lastDigit (n : Nat) : Fin 16 := ⟨n % 16, Nat.mod_lt _ (by decide)⟩

lemma digits_of_le {n : Nat} (h : 16 ≤ n) :
    digits n = digits (n / 16) ++ [digit (lastDigit n)] := by
  rw [digits, Nat.toDigits_of_base_le (by decide) h, List.map_append, List.map_singleton, digits,
    ← toUpper_digitChar, lastDigit]

/-- A numeral grows at its end. -/
lemma padded_add_two (width n : Nat) :
    padded (width + 2) n = padded (width + 1) (n / 16) ++ [digit (lastDigit n)] := by
  by_cases h : n < 16
  · have hzero : n / 16 = 0 := Nat.div_eq_of_lt h
    have hlast : lastDigit n = ⟨n, h⟩ := Fin.ext (Nat.mod_eq_of_lt h)
    rw [padded, padded, hzero, digits_of_lt h, digits_of_lt (by decide), hlast]
    simp only [List.length_singleton, Nat.add_sub_cancel, Nat.reduceSubDiff]
    rw [List.replicate_succ']
    rfl
  · have hfilling : width + 2 - ((digits (n / 16)).length + 1) =
        width + 1 - (digits (n / 16)).length := Nat.add_sub_add_right _ 1 _
    rw [padded, padded, digits_of_le (Nat.le_of_not_lt h), List.length_append,
      List.length_singleton, hfilling, List.append_assoc]

lemma padded_one {n : Nat} (h : n < 16) : padded 1 n = [digit ⟨n, h⟩] := by
  rw [padded, digits_of_lt h]
  rfl

lemma div_lt_of_lt_pow {width n : Nat} (h : n < 16 ^ (width + 1)) : n / 16 < 16 ^ width :=
  Nat.div_lt_of_lt_mul (by rwa [Nat.pow_succ'] at h)

/-- A number that fits into the width has as many digits. -/
lemma length_padded_of_lt {width n : Nat} (h : n < 16 ^ (width + 1)) :
    (padded (width + 1) n).length = width + 1 := by
  induction width generalizing n with
  | zero =>
      rw [padded_one h]
      rfl
  | succ width ih =>
      rw [padded_add_two, List.length_append, ih (div_lt_of_lt_pow h)]
      rfl

lemma digit_injective : Function.Injective digit := by
  have h : ∀ a b : Fin 16, digit a = digit b → a = b := by decide
  exact fun a b => h a b

/-- **Different numbers have different numerals,** if they fit into the width. -/
lemma padded_inj (width : Nat) {a b : Nat} (ha : a < 16 ^ (width + 1)) (hb : b < 16 ^ (width + 1))
    (h : padded (width + 1) a = padded (width + 1) b) : a = b := by
  induction width generalizing a b with
  | zero =>
      rw [padded_one ha, padded_one hb, List.singleton_inj] at h
      exact congrArg Fin.val (digit_injective h)
  | succ width ih =>
      rw [padded_add_two, padded_add_two] at h
      obtain ⟨hfront, hlast⟩ := List.append_inj' h rfl
      have hquotient : a / 16 = b / 16 := ih (div_lt_of_lt_pow ha) (div_lt_of_lt_pow hb) hfront
      have hdigit : a % 16 = b % 16 :=
        congrArg Fin.val (digit_injective (List.singleton_inj.mp hlast))
      omega

/-- A numeral can be read off the front of a text. -/
lemma padded_append_inj (width : Nat) {a b : Nat} {rest other : List Char}
    (ha : a < 16 ^ (width + 1)) (hb : b < 16 ^ (width + 1))
    (h : padded (width + 1) a ++ rest = padded (width + 1) b ++ other) : a = b ∧ rest = other := by
  have hlength : (padded (width + 1) a).length = (padded (width + 1) b).length := by
    rw [length_padded_of_lt ha, length_padded_of_lt hb]
  obtain ⟨hnumeral, hrest⟩ := List.append_inj h hlength
  exact ⟨padded_inj width ha hb hnumeral, hrest⟩

/-- **The numeral of a word has the four digits of the word.** -/
theorem padded_word (w : Word) :
    padded 4 w.toNat = [⟨w.lead, w.lead_lt⟩, w.x, w.y, ⟨w.n, w.n_lt⟩].map digit := by
  have hlead : w.toNat / 16 / 16 / 16 = w.lead := by
    rw [Word.lead, Nat.div_div_eq_div_mul, Nat.div_div_eq_div_mul]
  have hx : lastDigit (w.toNat / 16 / 16) = w.x := by
    rw [lastDigit, Word.x]
    simp only [Nat.div_div_eq_div_mul, Nat.reduceMul]
  have hy : lastDigit (w.toNat / 16) = w.y := rfl
  have hn : lastDigit w.toNat = ⟨w.n, w.n_lt⟩ := rfl
  rw [padded_add_two, padded_add_two, padded_add_two, hlead, hx, hy, hn, padded_one w.lead_lt]
  rfl

end Hex

namespace Word

/-- The four digits of a word. -/
def numeral (w : Word) : String :=
  String.ofList ([⟨w.lead, w.lead_lt⟩, w.x, w.y, ⟨w.n, w.n_lt⟩].map Hex.digit)

lemma text_eq_numeral (w : Word) : Hex.text 4 w.toNat = w.numeral := by
  rw [Hex.text, Hex.padded_word, numeral]

end Word

end ChipVm
