/-!
# The pieces of a JSON text

JSON text is read from left to right.  Each reader here takes the characters that are left, and
either gives what it read together with the characters after it, or refuses.  Blanks may stand
around every piece; only space, tab, line feed and carriage return are blanks.

Numbers are natural numbers without a leading zero; what else JSON allows in a number matters only
where a value is skipped.  Strings are read in two steps: `pieces` takes a string apart, checking
its escapes, and `join` puts the text together, in which two halves of a surrogate pair become one
character and a half on its own is refused.

* `Json.skipBlanks`, `Json.expect` — blanks, and one expected character after them.
* `Json.readNat` — a natural number.
* `Json.pieces`, `Json.join`, `Json.readString` — strings.
* `Json.skipScalar` — any number, string, or literal, without regard to what it says.
* **`Json.length_skipScalar_lt`** and its companions — every reader leaves fewer characters than it
  was given, which is why reading comes to an end.
-/

namespace ChipVm

namespace Json

/-! ## Blanks -/

/-- The characters that may stand around the pieces of a text. -/
def isBlank (c : Char) : Bool := c == ' ' || c == '\t' || c == '\n' || c == '\r'

/-- The text from its first character that is not blank. -/
def skipBlanks (cs : List Char) : List Char := cs.dropWhile isBlank

/-- The text after blanks and the character `c`. -/
def expect (c : Char) (cs : List Char) : Option (List Char) :=
  match skipBlanks cs with
  | d :: rest => if d = c then some rest else none
  | [] => none

theorem length_dropWhile_le (p : Char → Bool) (cs : List Char) :
    (cs.dropWhile p).length ≤ cs.length :=
  (List.dropWhile_sublist p).length_le

theorem length_skipBlanks_le (cs : List Char) : (skipBlanks cs).length ≤ cs.length :=
  length_dropWhile_le _ cs

theorem length_lt_of_skipBlanks_eq_cons {cs rest : List Char} {c : Char}
    (h : skipBlanks cs = c :: rest) : rest.length < cs.length := by
  have := length_skipBlanks_le cs
  rw [h, List.length_cons] at this
  omega

theorem length_expect_lt {c : Char} {cs rest : List Char} (h : expect c cs = some rest) :
    rest.length < cs.length := by
  unfold expect at h
  split at h
  · rename_i d tail htail
    split at h
    · cases h
      exact length_lt_of_skipBlanks_eq_cons htail
    · cases h
  · cases h

/-! ## Numbers -/

/-- A natural number, written without a leading zero. -/
def readNat (cs : List Char) : Option (Nat × List Char) :=
  match cs.takeWhile Char.isDigit with
  | [] => none
  | '0' :: _ :: _ => none
  | digits => some (Nat.ofDigitChars 10 digits 0, cs.dropWhile Char.isDigit)

/-- At least one digit. -/
def skipDigits (cs : List Char) : Option (List Char) :=
  match cs with
  | c :: rest => if c.isDigit then some (rest.dropWhile Char.isDigit) else none
  | [] => none

/-- A point with digits after it, if there is a point. -/
def skipFraction (cs : List Char) : Option (List Char) :=
  match cs with
  | '.' :: rest => skipDigits rest
  | _ => some cs

/-- The text after a sign, if there is one. -/
def skipSign (cs : List Char) : List Char :=
  match cs with
  | '+' :: rest => rest
  | '-' :: rest => rest
  | _ => cs

/-- An exponent, if there is one. -/
def skipExponent (cs : List Char) : Option (List Char) :=
  match cs with
  | 'e' :: rest => skipDigits (skipSign rest)
  | 'E' :: rest => skipDigits (skipSign rest)
  | _ => some cs

/-- A number without its sign. -/
def skipUnsigned (cs : List Char) : Option (List Char) :=
  match readNat cs with
  | some (_, rest) => (skipFraction rest).bind skipExponent
  | none => none

theorem length_readNat_lt {cs rest : List Char} {n : Nat} (h : readNat cs = some (n, rest)) :
    rest.length < cs.length := by
  cases cs with
  | nil => simp [readNat] at h
  | cons c tail =>
      by_cases hc : c.isDigit = true
      · have hrest : rest = tail.dropWhile Char.isDigit := by
          unfold readNat at h
          split at h
          · cases h
          · cases h
          · simp only [Option.some.injEq, Prod.mk.injEq] at h
            simpa [List.dropWhile_cons, hc] using h.2.symm
        have := length_dropWhile_le Char.isDigit tail
        simp only [hrest, List.length_cons]
        omega
      · simp [readNat, hc] at h

theorem length_skipDigits_lt {cs rest : List Char} (h : skipDigits cs = some rest) :
    rest.length < cs.length := by
  cases cs with
  | nil => simp [skipDigits] at h
  | cons c tail =>
      have := length_dropWhile_le Char.isDigit tail
      simp only [skipDigits, Option.ite_none_right_eq_some, Option.some.injEq] at h
      rw [← h.2, List.length_cons]
      omega

theorem length_skipSign_le (cs : List Char) : (skipSign cs).length ≤ cs.length := by
  unfold skipSign
  split <;> simp

theorem length_skipFraction_le {cs rest : List Char} (h : skipFraction cs = some rest) :
    rest.length ≤ cs.length := by
  unfold skipFraction at h
  split at h
  · have := length_skipDigits_lt h
    simp only [List.length_cons]
    omega
  · cases h
    exact Nat.le_refl _

theorem length_skipExponent_le {cs rest : List Char} (h : skipExponent cs = some rest) :
    rest.length ≤ cs.length := by
  unfold skipExponent at h
  split at h
  all_goals
    first
    | (rename_i tail
       have h₁ := length_skipDigits_lt h
       have h₂ := length_skipSign_le tail
       simp only [List.length_cons]
       omega)
    | (cases h
       exact Nat.le_refl _)

theorem length_skipUnsigned_lt {cs rest : List Char} (h : skipUnsigned cs = some rest) :
    rest.length < cs.length := by
  unfold skipUnsigned at h
  split at h
  · rename_i n tail hn
    obtain ⟨mid, hmid, hrest⟩ := Option.bind_eq_some_iff.mp h
    have h₁ := length_readNat_lt hn
    have h₂ := length_skipFraction_le hmid
    have h₃ := length_skipExponent_le hrest
    omega
  · cases h

/-! ## Strings -/

/-- What one place of a string says: a character, or a 16-bit unit written in hexadecimal. -/
inductive Piece where
  /-- A character, written as itself or with a short escape. -/
  | char (c : Char)
  /-- A unit, written with four hexadecimal digits. -/
  | unit (n : Nat)
  deriving DecidableEq, Repr

/-- The value of a hexadecimal digit, in either case. -/
def hexValue? (c : Char) : Option Nat :=
  if c.isDigit then some (c.toNat - '0'.toNat)
  else if 'a' ≤ c ∧ c ≤ 'f' then some (c.toNat - 'a'.toNat + 10)
  else if 'A' ≤ c ∧ c ≤ 'F' then some (c.toNat - 'A'.toNat + 10)
  else none

/-- The value of four hexadecimal digits. -/
def unit? (a b c d : Char) : Option Nat :=
  match hexValue? a, hexValue? b, hexValue? c, hexValue? d with
  | some a, some b, some c, some d => some (((a * 16 + b) * 16 + c) * 16 + d)
  | _, _, _, _ => none

/-- What a short escape stands for. -/
def shortEscape? : Char → Option Char
  | '"' => some '"'
  | '\\' => some '\\'
  | '/' => some '/'
  | 'b' => some '\x08'
  | 'f' => some '\x0c'
  | 'n' => some '\n'
  | 'r' => some '\r'
  | 't' => some '\t'
  | _ => none

/-- Takes a string apart, from after its opening quote to after its closing one.  Control characters
are refused, and so is a backslash that begins no escape.  The pieces read so far are in `acc`, last
one first. -/
def pieces (acc : List Piece) : List Char → Option (List Piece × List Char)
  | [] => none
  | '"' :: rest => some (acc.reverse, rest)
  | '\\' :: 'u' :: a :: b :: c :: d :: rest =>
      match unit? a b c d with
      | some n => pieces (.unit n :: acc) rest
      | none => none
  | '\\' :: e :: rest =>
      match shortEscape? e with
      | some c => pieces (.char c :: acc) rest
      | none => none
  | c :: rest => if c < ' ' ∨ c = '\\' then none else pieces (.char c :: acc) rest

/-- Whether a unit is the first half of a surrogate pair. -/
def isHighHalf (n : Nat) : Bool := 0xD800 ≤ n && n < 0xDC00

/-- Whether a unit is the second half of a surrogate pair. -/
def isLowHalf (n : Nat) : Bool := 0xDC00 ≤ n && n < 0xE000

/-- The text that the pieces of a string make.  The halves of a surrogate pair have to stand next
to each other.  The characters so far are in `acc`, last one first. -/
def join (acc : List Char) : List Piece → Option (List Char)
  | [] => some acc.reverse
  | .char c :: rest => join (c :: acc) rest
  | [.unit n] => if isHighHalf n || isLowHalf n then none else some (Char.ofNat n :: acc).reverse
  | .unit n :: p :: rest =>
      if isHighHalf n then
        match p with
        | .unit m =>
            if isLowHalf m then
              join (Char.ofNat (0x10000 + (n - 0xD800) * 0x400 + (m - 0xDC00)) :: acc) rest
            else none
        | .char _ => none
      else if isLowHalf n then none
      else join (Char.ofNat n :: acc) (p :: rest)

/-- A string from its opening quote on, and the text it stands for. -/
def readString (cs : List Char) : Option (List Char × List Char) :=
  match expect '"' cs with
  | none => none
  | some body =>
      match pieces [] body with
      | none => none
      | some (ps, rest) => (join [] ps).map fun text => (text, rest)

/-- A string from its opening quote on, whatever it stands for. -/
def skipString (cs : List Char) : Option (List Char) :=
  match expect '"' cs with
  | none => none
  | some body => (pieces [] body).map Prod.snd

theorem length_pieces_lt {acc ps : List Piece} {cs rest : List Char}
    (h : pieces acc cs = some (ps, rest)) : rest.length < cs.length := by
  fun_induction pieces acc cs with
  | case1 => cases h
  | case2 acc tail =>
      cases h
      simp
  | case3 acc a b c d tail n hn ih =>
      have := ih h
      simp only [List.length_cons]
      omega
  | case4 => cases h
  | case5 acc e tail hne c hc ih =>
      have := ih h
      simp only [List.length_cons]
      omega
  | case6 => cases h
  | case7 => cases h
  | case8 acc c tail _ _ _ hc ih =>
      have := ih h
      simp only [List.length_cons]
      omega

theorem length_readString_lt {cs text rest : List Char} (h : readString cs = some (text, rest)) :
    rest.length < cs.length := by
  unfold readString at h
  split at h
  · cases h
  · rename_i body hbody
    split at h
    · cases h
    · rename_i ps tail hps
      obtain ⟨t, _, ht⟩ := Option.map_eq_some_iff.mp h
      cases ht
      have h₁ := length_expect_lt hbody
      have h₂ := length_pieces_lt hps
      omega

theorem length_skipString_lt {cs rest : List Char} (h : skipString cs = some rest) :
    rest.length < cs.length := by
  unfold skipString at h
  split at h
  · cases h
  · rename_i body hbody
    obtain ⟨⟨ps, tail⟩, hps, rfl⟩ := Option.map_eq_some_iff.mp h
    have h₁ := length_expect_lt hbody
    have h₂ := length_pieces_lt hps
    simp only
    omega

/-! ## Values without parts -/

/-- A number, a string, or one of the three literals, from its first character on. -/
def skipScalar (cs : List Char) : Option (List Char) :=
  match cs with
  | '"' :: _ => skipString cs
  | 't' :: 'r' :: 'u' :: 'e' :: rest => some rest
  | 'f' :: 'a' :: 'l' :: 's' :: 'e' :: rest => some rest
  | 'n' :: 'u' :: 'l' :: 'l' :: rest => some rest
  | '-' :: rest => skipUnsigned rest
  | _ => skipUnsigned cs

/-- **A value without parts takes at least one character.** -/
theorem length_skipScalar_lt {cs rest : List Char} (h : skipScalar cs = some rest) :
    rest.length < cs.length := by
  unfold skipScalar at h
  split at h
  · exact length_skipString_lt h
  · cases h
    simp only [List.length_cons]
    omega
  · cases h
    simp only [List.length_cons]
    omega
  · cases h
    simp only [List.length_cons]
    omega
  · have := length_skipUnsigned_lt h
    simp only [List.length_cons]
    omega
  · exact length_skipUnsigned_lt h

end Json

end ChipVm
