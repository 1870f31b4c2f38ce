import ChipVm.Text.Extending
import ChipVm.Text.Unprintable

/-!
# Quoted text

Names that come from outside, such as the path of a file, are shown between double quotes so that
their ends can be seen.  Inside the quotes the quote itself and the backslash are written with a
backslash before them, and so are, by a letter, the characters that would break a line.  A character
that would not be seen on its own, because it cannot be printed or only extends the one before, is
written by its code point.  Every other character stands for itself, letters beyond ASCII included.

* `Quoted.standsAlone` — the characters that are seen on their own.
* `Quoted.escape` — how one character is written.
* `Quoted.text` — a whole string between quotes.
* **`Quoted.escape_ascii`** — of ASCII, everything from the space to the tilde stands for itself,
  the quote and the backslash apart.
* **`Quoted.escape_ne_quote`** — nothing that is written for a character is a lone quote, so the
  closing quote is the first one that no backslash precedes.
-/

namespace ChipVm

namespace Quoted

/-- Whether a character is seen on its own. -/
def standsAlone (c : Char) : Bool :=
  !CharClass.extending.contains c && !CharClass.unprintable.contains c

/-- A character written by its code point, in lower-case hexadecimal. -/
def codePoint (c : Char) : List Char := '\\' :: 'u' :: '{' :: Nat.toDigits 16 c.toNat ++ ['}']

/-- How one character is written between double quotes. -/
def escape (c : Char) : List Char :=
  match c with
  | '"' => ['\\', '"']
  | '\\' => ['\\', '\\']
  | '\n' => ['\\', 'n']
  | '\r' => ['\\', 'r']
  | '\t' => ['\\', 't']
  | '\x00' => ['\\', '0']
  | _ => if standsAlone c then [c] else codePoint c

/-- The string between double quotes, each character escaped as needed. -/
def text (s : String) : String :=
  String.ofList ('"' :: s.toList.flatMap escape ++ ['"'])

/-- What ASCII can print is seen on its own. -/
theorem standsAlone_ascii {c : Char} (hlow : 0x20 ≤ c.toNat) (hhigh : c.toNat ≤ 0x7E) :
    standsAlone c = true := by
  have hext : CharClass.extending.contains c = false := CharClass.extending_of_lt (by omega)
  simp [standsAlone, hext, CharClass.unprintable_of_printable hlow hhigh]

/-- **What ASCII can print stands for itself,** the quote and the backslash apart. -/
theorem escape_ascii {c : Char} (hlow : 0x20 ≤ c.toNat) (hhigh : c.toNat ≤ 0x7E)
    (hquote : c ≠ '"') (hbackslash : c ≠ '\\') : escape c = [c] := by
  unfold escape
  split
  · exact absurd rfl hquote
  · exact absurd rfl hbackslash
  · exact absurd hlow (by decide)
  · exact absurd hlow (by decide)
  · exact absurd hlow (by decide)
  · exact absurd hlow (by decide)
  · simp [standsAlone_ascii hlow hhigh]

/-- **A lone quote is never written for a character.** -/
theorem escape_ne_quote (c : Char) : escape c ≠ ['"'] := by
  unfold escape
  split
  case h_7 hquote _ _ _ _ _ =>
    split
    · exact fun h => hquote (List.head_eq_of_cons_eq h)
    · simp [codePoint]
  all_goals simp

end Quoted

end ChipVm
