/-!
# Upper-case hexadecimal

Every address, word and register this library shows to a person is written the same way: upper-case
hexadecimal digits, most significant first, filled up with zeros on the left to a least width.  A
number that needs more digits than the width gets them all, so a numeral never lies about its
value.

* `Hex.digits` — the digits of a number, without filling.
* `Hex.padded` — the digits filled up to a width.
* `Hex.text` — the same as a string.
-/

namespace ChipVm

namespace Hex

/-- The upper-case hexadecimal digits of `n`, most significant first; zero has the one digit `0`. -/
def digits (n : Nat) : List Char :=
  (Nat.toDigits 16 n).map Char.toUpper

/-- The digits of `n`, filled up with zeros on the left to at least `width`. -/
def padded (width n : Nat) : List Char :=
  List.replicate (width - (digits n).length) '0' ++ digits n

/-- `padded`, as a string. -/
def text (width n : Nat) : String :=
  String.ofList (padded width n)

end Hex

end ChipVm
