import ChipVm.CommandLine
import Mathlib.Tactic.Common

/-!
# Ways to write a command line

What a command line says can be written in many ways.  An option has a long name, and some have a
letter as well; its value is the argument after it or is attached to it; and a number may have zeros
or a plus sign in front.  Here these ways are data: a command line is a list of items, in any order,
and each item is a few arguments.

* `CommandLine.Form` — how an option is joined to its value.
* `CommandLine.Value` — a value that an option can have, and how it is written.
* `CommandLine.Item`, `CommandLine.Item.words` — a part of a command line, and its arguments.
* **`CommandLine.readNumeral_text`** — the number that was written is read.
* `CommandLine.ofString_name`, `CommandLine.ofString_letter` — what the arguments look like.
-/

namespace ChipVm

namespace Setting

/-- The long name of an option. -/
def name : Setting → String
  | .scale => "scale"
  | .clockSpeed => "clock-speed"
  | .stateFile => "state-file"

/-- The letter of an option, if it has one. -/
def letter? : Setting → Option Char
  | .scale => some 's'
  | .clockSpeed => some 'c'
  | .stateFile => none

end Setting

namespace CommandLine

/-! ## Values -/

/-- How a number is written: whether it has a plus sign, and how many zeros it has in front. -/
structure NumeralStyle where
  plus : Bool
  zeros : Nat

namespace NumeralStyle

/-- The digits of a number. -/
def digits (style : NumeralStyle) (n : Nat) : List Char :=
  List.replicate style.zeros '0' ++ Nat.toDigits 10 n

/-- A number as it is written. -/
def text (style : NumeralStyle) (n : Nat) : String :=
  String.ofList (if style.plus then '+' :: style.digits n else style.digits n)

variable (style : NumeralStyle) (n : Nat)

lemma digits_ne_nil : style.digits n ≠ [] :=
  List.append_ne_nil_of_right_ne_nil _ Nat.toDigits_ne_nil

lemma isDigit_of_mem_digits {c : Char} (h : c ∈ style.digits n) : c.isDigit = true := by
  rcases List.mem_append.mp h with h | h
  · rw [(List.mem_replicate.mp h).2]
    rfl
  · exact Nat.isDigit_of_mem_toDigits (by decide) (by decide) h

/-- Zeros in front do not count. -/
lemma ofDigitChars_digits : Nat.ofDigitChars 10 (style.digits n) 0 = n := by
  have hzeros : ∀ k, Nat.ofDigitChars 10 (List.replicate k '0') 0 = 0 := by
    intro k
    induction k with
    | zero => rfl
    | succ k ih => rw [List.replicate_succ, Nat.ofDigitChars_cons, Nat.mul_zero]; exact ih
  rw [digits, Nat.ofDigitChars_append, hzeros, Nat.ofDigitChars_ten_toDigits]

/-- A number begins with a plus sign or a digit. -/
lemma exists_text_eq_cons :
    ∃ c cs, (style.text n).toList = c :: cs ∧ (c = '+' ∨ c.isDigit = true) := by
  rw [text, String.toList_ofList]
  split_ifs
  · exact ⟨'+', _, rfl, .inl rfl⟩
  · obtain ⟨c, cs, hcs⟩ := List.exists_cons_of_ne_nil (style.digits_ne_nil n)
    refine ⟨c, cs, hcs, .inr (style.isDigit_of_mem_digits n ?_)⟩
    rw [hcs]
    exact List.mem_cons_self

end NumeralStyle

/-- **The number that was written is read.** -/
lemma readNumeral_text (style : NumeralStyle) (n : Nat) :
    readNumeral (style.text n) = some (false, n) := by
  have hdigits : style.digits n ≠ [] ∧ (style.digits n).all Char.isDigit = true :=
    ⟨style.digits_ne_nil n, List.all_eq_true.mpr fun c => style.isDigit_of_mem_digits n⟩
  have hsign {c : Char} {rest : List Char} (h : style.digits n = c :: rest) : c.isDigit = true :=
    style.isDigit_of_mem_digits n (h ▸ List.mem_cons_self)
  unfold readNumeral
  rw [NumeralStyle.text, String.toList_ofList]
  split
  rename_i negative digits hsplit
  obtain ⟨rfl, rfl⟩ : false = negative ∧ style.digits n = digits := by
    rw [← Prod.mk.injEq, ← hsplit]
    split_ifs
    · rfl
    · split
      · exact absurd (hsign ‹_›) (by decide)
      · exact absurd (hsign ‹_›) (by decide)
      · rfl
  rw [if_pos hdigits, style.ofDigitChars_digits]

/-- The name of a file, which is not empty and cannot be taken for an option. -/
structure FileName where
  text : String
  ne_empty : text ≠ ""
  head_ne : text.toList.head? ≠ some '-'

/-- A value of an option, and how it is written if it is a number. -/
inductive Value : Setting → Type where
  | scale (style : NumeralStyle) (n : Nat) (h : n < 0x100000000) : Value .scale
  | clockSpeed (style : NumeralStyle) (n : Nat) (h : n < 0x10000000000000000) : Value .clockSpeed
  | stateFile (file : FileName) : Value .stateFile

namespace Value

variable {s : Setting}

/-- A value as it is written. -/
def text : {s : Setting} → Value s → String
  | _, .scale style n _ => style.text n
  | _, .clockSpeed style n _ => style.text n
  | _, .stateFile file => file.text

/-- A value that is an argument of its own cannot be taken for an option. -/
lemma head_ne (value : Value s) : value.text.toList.head? ≠ some '-' := by
  have hnumeral (style : NumeralStyle) (n : Nat) : (style.text n).toList.head? ≠ some '-' := by
    obtain ⟨c, cs, hcs, hc⟩ := style.exists_text_eq_cons n
    rw [hcs]
    rintro ⟨rfl⟩
    exact absurd hc (by decide)
  cases value with
  | scale style n _ => exact hnumeral style n
  | clockSpeed style n _ => exact hnumeral style n
  | stateFile file => exact file.head_ne

/-- A value that stands directly after the letter of its option is read. -/
lemma attachedValue_text {letter : Char} (h : s.letter? = some letter) (value : Value s) :
    attachedValue value.text.toList = some value.text := by
  have hnumeral (style : NumeralStyle) (n : Nat) :
      attachedValue (style.text n).toList = some (style.text n) := by
    obtain ⟨c, cs, hcs, hc⟩ := style.exists_text_eq_cons n
    have hne : c ≠ '=' := by
      rintro rfl
      exact absurd hc (by decide)
    have htext : style.text n = String.ofList (c :: cs) := by rw [← hcs, String.ofList_toList]
    rw [hcs, htext, attachedValue]
    · exact List.cons_ne_nil c cs
    · rintro rest ⟨rfl⟩
      exact hne rfl
  cases value with
  | scale style n _ => exact hnumeral style n
  | clockSpeed style n _ => exact hnumeral style n
  | stateFile file => cases h

end Value

/-! ## Items -/

/-- How an option is joined to its value. -/
inductive Form (s : Setting) where
  /-- The long name, and the value as the next argument. -/
  | long
  /-- The long name, an equals sign and the value. -/
  | longEquals
  /-- The letter, and the value as the next argument. -/
  | short (letter : Char) (h : s.letter? = some letter)
  /-- The letter and the value. -/
  | shortJoined (letter : Char) (h : s.letter? = some letter)
  /-- The letter, an equals sign and the value. -/
  | shortEquals (letter : Char) (h : s.letter? = some letter)

/-- The arguments that make up an option with its value. -/
def Form.words {s : Setting} (value : String) : Form s → List String
  | .long => ["--" ++ s.name, value]
  | .longEquals => ["--" ++ s.name ++ "=" ++ value]
  | .short letter _ => [String.ofList ['-', letter], value]
  | .shortJoined letter _ => [String.ofList ['-', letter] ++ value]
  | .shortEquals letter _ => [String.ofList ['-', letter] ++ "=" ++ value]

/-- A part of a command line. -/
inductive Item where
  | rom (file : FileName)
  | setting {s : Setting} (form : Form s) (value : Value s)
  | paused

/-- The arguments of an item. -/
def Item.words : Item → List String
  | .rom file => [file.text]
  | .setting form value => form.words value.text
  | .paused => ["--paused"]

/-! ## Arguments -/

lemma ofString_of_head_ne {text : String} (h : text.toList.head? ≠ some '-') :
    Argument.ofString text = .plain text := by
  unfold Argument.ofString
  split
  · rename_i hsplit
    simp [hsplit] at h
  · rename_i hsplit
    simp [hsplit] at h
  · rename_i hsplit
    simp [hsplit] at h
  · rfl

lemma ofString_name (s : Setting) : Argument.ofString ("--" ++ s.name) = .long s.name none := by
  cases s <;> rfl

lemma ofString_name_equals (s : Setting) (value : String) :
    Argument.ofString ("--" ++ s.name ++ "=" ++ value) = .long s.name (some value) := by
  cases s <;> simp [Argument.ofString, Setting.name]

lemma ofString_letter {s : Setting} {letter : Char} (h : s.letter? = some letter)
    (rest : String) :
    Argument.ofString (String.ofList ['-', letter] ++ rest) = .short letter rest.toList := by
  cases s with
  | scale | clockSpeed =>
      obtain rfl := Option.some.inj h
      simp [Argument.ofString]
  | stateFile => cases h

end CommandLine

end ChipVm
