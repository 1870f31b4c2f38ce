import ChipVm.Json.Lexeme
import Mathlib.Tactic.Common

/-!
# The grammar of JSON

The readers of this library take characters off the front of a text and say what they have read.
Here is what a text ought to be, without any reading: a text belongs to the grammar if it can be put
together from the texts of its parts.  That leaves open in which order one looks at it and how one
notices that something is wrong, so it is what the readers can be held against.

* `Blanks`, `Padded`, `Separated` — what stands around pieces and between them.
* `Digits`, `Numeral`, `Number` — numbers: `Numeral n` are the digits of the natural number `n`
  without a leading zero, and a `Number` is any number of JSON, of any size.
* `Pieces`, `Spells`, `InQuotes` — strings: which texts may stand between quotes, and which text
  they stand for.
* `Wellformed` — values, nested to any depth.
* **`numeral_toDigits`** — the usual digits of a number are its numeral.
-/

namespace ChipVm

namespace Json

/-! ## Around and between -/

/-- Nothing but spaces, tabs, line feeds and carriage returns. -/
def Blanks (cs : List Char) : Prop := ∀ c ∈ cs, c = ' ' ∨ c = '\t' ∨ c = '\n' ∨ c = '\r'

/-- A text with blanks around it. -/
inductive Padded (P : List Char → Prop) : List Char → Prop
  | mk {before cs after : List Char} (hbefore : Blanks before) (h : P cs) (hafter : Blanks after) :
      Padded P (before ++ cs ++ after)

/-- The texts of some things, at least one, with commas between them. -/
inductive Separated {α : Type} (P : α → List Char → Prop) : List α → List Char → Prop
  | last {a : α} {cs : List Char} (h : P a cs) : Separated P [a] cs
  | more {a : α} {as : List α} {cs ds : List Char} (h : P a cs) (hs : Separated P as ds) :
      Separated P (a :: as) (cs ++ ',' :: ds)

/-! ## Numbers -/

/-- At least one digit. -/
def Digits (cs : List Char) : Prop := cs ≠ [] ∧ ∀ c ∈ cs, c.isDigit = true

/-- The digits of a natural number, without sign, fraction or exponent.  Only the numeral of zero
begins with a zero. -/
structure Numeral (n : Nat) (cs : List Char) : Prop where
  digits : Digits cs
  leading : cs.head? = some '0' → cs = ['0']
  value : Nat.ofDigitChars 10 cs 0 = n

lemma head?_toDigits {n : Nat} (hn : n ≠ 0) : (Nat.toDigits 10 n).head? ≠ some '0' := by
  induction n using Nat.strongRecOn with
  | ind n ih =>
      by_cases hlt : n < 10
      · have hdigit : ∀ k < 10, k ≠ 0 → Nat.digitChar k ≠ '0' := by decide
        rw [Nat.toDigits_of_lt_base hlt]
        simpa using hdigit n hlt hn
      · rw [Nat.toDigits_of_base_le (by decide) (by omega), List.head?_append]
        intro h
        rcases hd : (Nat.toDigits 10 (n / 10)).head? with _ | c
        · exact Nat.toDigits_ne_nil (List.head?_eq_none_iff.mp hd)
        · rw [hd] at h
          exact ih (n / 10) (by omega) (by omega) (hd.trans h)

/-- **The usual digits of a number are its numeral.** -/
theorem numeral_toDigits (n : Nat) : Numeral n (Nat.toDigits 10 n) where
  digits := by
    refine ⟨Nat.toDigits_ne_nil, fun c hc => ?_⟩
    exact Nat.isDigit_of_mem_toDigits (by decide) (by decide) hc
  leading h := by
    by_cases hn : n = 0
    · rw [hn, Nat.toDigits_zero]
    · exact absurd h (head?_toDigits hn)
  value := Nat.ofDigitChars_ten_toDigits

/-- A point with digits after it, or nothing. -/
inductive Fraction : List Char → Prop
  | absent : Fraction []
  | present {ds : List Char} (h : Digits ds) : Fraction ('.' :: ds)

/-- A letter for the exponent with digits after it, signed or not, or nothing. -/
inductive Exponent : List Char → Prop
  | absent : Exponent []
  | present {e : Char} {sign ds : List Char} (he : e = 'e' ∨ e = 'E')
      (hsign : sign = [] ∨ sign = ['+'] ∨ sign = ['-']) (h : Digits ds) :
      Exponent (e :: sign ++ ds)

/-- Any number. -/
inductive Number : List Char → Prop
  | mk {sign whole fraction exponent : List Char} {n : Nat} (hsign : sign = [] ∨ sign = ['-'])
      (hwhole : Numeral n whole) (hfraction : Fraction fraction) (hexponent : Exponent exponent) :
      Number (sign ++ (whole ++ (fraction ++ exponent)))

/-! ## Strings -/

/-- The short escapes: the letter after the backslash, and the character it stands for. -/
def shortEscapes : List (Char × Char) :=
  [('"', '"'), ('\\', '\\'), ('/', '/'), ('b', '\x08'), ('f', '\x0c'), ('n', '\n'), ('r', '\r'),
   ('t', '\t')]

/-- The hexadecimal digit of a number below sixteen, in either case. -/
def HexDigit (n : Nat) (c : Char) : Prop :=
  n < 16 ∧ (c = Nat.digitChar n ∨ c = (Nat.digitChar n).toUpper)

/-- One place of a string.  A character stands for itself unless it is a control character, the
quote or the backslash; any character may be written as an escape, short or by its units. -/
inductive PieceText : Piece → List Char → Prop
  | plain {c : Char} (hcontrol : 0x20 ≤ c.toNat) (hquote : c ≠ '"') (hbackslash : c ≠ '\\') :
      PieceText (.char c) [c]
  | short {e c : Char} (h : (e, c) ∈ shortEscapes) : PieceText (.char c) ['\\', e]
  | unit {h₃ h₂ h₁ h₀ : Char} {n₃ n₂ n₁ n₀ : Nat} (d₃ : HexDigit n₃ h₃) (d₂ : HexDigit n₂ h₂)
      (d₁ : HexDigit n₁ h₁) (d₀ : HexDigit n₀ h₀) :
      PieceText (.unit (n₃ * 0x1000 + n₂ * 0x100 + n₁ * 0x10 + n₀)) ['\\', 'u', h₃, h₂, h₁, h₀]

/-- The places of a string one after the other. -/
inductive Pieces : List Piece → List Char → Prop
  | nil : Pieces [] []
  | cons {p : Piece} {ps : List Piece} {cs ds : List Char} (h : PieceText p cs)
      (hs : Pieces ps ds) : Pieces (p :: ps) (cs ++ ds)

/-- A whole string, quotes included. -/
inductive InQuotes (ps : List Piece) : List Char → Prop
  | mk {body : List Char} (h : Pieces ps body) : InQuotes ps ('"' :: body ++ ['"'])

/-- The text that the places of a string stand for.  Half of a surrogate pair stands for nothing on
its own. -/
inductive Spells : List Piece → List Char → Prop
  | nil : Spells [] []
  | char {c : Char} {ps : List Piece} {text : List Char} (hs : Spells ps text) :
      Spells (.char c :: ps) (c :: text)
  | unit {n : Nat} {ps : List Piece} {text : List Char} (h : n < 0xD800 ∨ 0xE000 ≤ n)
      (hs : Spells ps text) : Spells (.unit n :: ps) (Char.ofNat n :: text)
  | pair {m n : Nat} {ps : List Piece} {text : List Char} (hm : 0xD800 ≤ m ∧ m < 0xDC00)
      (hn : 0xDC00 ≤ n ∧ n < 0xE000) (hs : Spells ps text) :
      Spells (.unit m :: .unit n :: ps)
        (Char.ofNat (0x10000 + (m - 0xD800) * 0x400 + (n - 0xDC00)) :: text)

/-- A string that stands for a text. -/
def StringFor (text cs : List Char) : Prop := ∃ ps, InQuotes ps cs ∧ Spells ps text

/-! ## Values -/

/-- What a text can be within a value.  An element is a value with blanks around it, a member a
name, a colon and an element; elements and members have commas between them. -/
inductive Part where
  | value
  | element
  | elements
  | member
  | members

/-- Texts that are written as JSON asks for, whatever they say. -/
inductive Wellformed : Part → List Char → Prop
  | nullLiteral : Wellformed .value ['n', 'u', 'l', 'l']
  | trueLiteral : Wellformed .value ['t', 'r', 'u', 'e']
  | falseLiteral : Wellformed .value ['f', 'a', 'l', 's', 'e']
  | number {cs : List Char} (h : Number cs) : Wellformed .value cs
  | string {ps : List Piece} {cs : List Char} (h : InQuotes ps cs) : Wellformed .value cs
  | emptyArray {b : List Char} (h : Blanks b) : Wellformed .value ('[' :: b ++ [']'])
  | array {cs : List Char} (h : Wellformed .elements cs) : Wellformed .value ('[' :: cs ++ [']'])
  | emptyObject {b : List Char} (h : Blanks b) : Wellformed .value ('{' :: b ++ ['}'])
  | object {cs : List Char} (h : Wellformed .members cs) : Wellformed .value ('{' :: cs ++ ['}'])
  | element {before cs after : List Char} (hbefore : Blanks before) (h : Wellformed .value cs)
      (hafter : Blanks after) : Wellformed .element (before ++ cs ++ after)
  | lastElement {cs : List Char} (h : Wellformed .element cs) : Wellformed .elements cs
  | moreElements {cs ds : List Char} (h : Wellformed .element cs)
      (hs : Wellformed .elements ds) : Wellformed .elements (cs ++ ',' :: ds)
  | member {before name after cs : List Char} {ps : List Piece} (hbefore : Blanks before)
      (hname : InQuotes ps name) (hafter : Blanks after) (h : Wellformed .element cs) :
      Wellformed .member (before ++ name ++ after ++ ':' :: cs)
  | lastMember {cs : List Char} (h : Wellformed .member cs) : Wellformed .members cs
  | moreMembers {cs ds : List Char} (h : Wellformed .member cs) (hs : Wellformed .members ds) :
      Wellformed .members (cs ++ ',' :: ds)

end Json

end ChipVm
