import ChipVm.Proofs.Json.Grammar
import Mathlib.Data.List.TakeWhile

/-!
# Reading the pieces of a JSON text

Each reader of a piece is held against the grammar, in two directions.  What the grammar allows is
read, whatever comes after it (`…_append`), provided that what comes after does not go on with the
piece; and whatever is read has been a piece of the grammar (`of_…`).

Only numbers can go on: nothing tells where they end but the character after them.  In a text that
the grammar allows that character is a blank, a comma, a closing bracket or a closing brace, or
there is none, which is what `Delimited` says.

* `Solid`, `Delimited` — how a piece begins, and what may come after one.
* **`readNat_append`**, **`of_readNat`** — natural numbers.
* **`skipUnsigned_append`**, **`of_skipUnsigned`** — all other numbers.
* **`readString_append`**, **`of_readString`** — strings, and the texts they stand for.
-/

namespace ChipVm

namespace Json

/-! ## Blanks -/

lemma isBlank_iff (c : Char) :
    isBlank c = true ↔ c = ' ' ∨ c = '\t' ∨ c = '\n' ∨ c = '\r' := by
  simp [isBlank, or_assoc]

lemma blanks_nil : Blanks [] := fun _ h => absurd h List.not_mem_nil

lemma Blanks.forall_isBlank {b : List Char} (hb : Blanks b) : ∀ c ∈ b, isBlank c = true :=
  fun c hc => (isBlank_iff c).mpr (hb c hc)

/-- The text begins with a character, and the character is not blank. -/
def Solid (cs : List Char) : Prop := ∃ c tail, cs = c :: tail ∧ isBlank c = false

lemma solid_cons {c : Char} (hc : isBlank c = false) (cs : List Char) : Solid (c :: cs) :=
  ⟨c, cs, rfl, hc⟩

lemma Solid.append {cs : List Char} (h : Solid cs) (rest : List Char) : Solid (cs ++ rest) := by
  obtain ⟨c, tail, rfl, hc⟩ := h
  exact ⟨c, tail ++ rest, rfl, hc⟩

lemma Solid.skipBlanks_eq {cs : List Char} (h : Solid cs) : skipBlanks cs = cs := by
  obtain ⟨c, tail, rfl, hc⟩ := h
  exact List.dropWhile_cons_of_neg (by simp [hc])

lemma skipBlanks_blanks_append {b : List Char} (hb : Blanks b) (cs : List Char) :
    skipBlanks (b ++ cs) = skipBlanks cs :=
  List.dropWhile_append_of_pos hb.forall_isBlank

lemma skipBlanks_append {b cs : List Char} (hb : Blanks b) (h : Solid cs) :
    skipBlanks (b ++ cs) = cs := by
  rw [skipBlanks_blanks_append hb, h.skipBlanks_eq]

/-- What `skipBlanks` takes off is blank. -/
lemma exists_eq_append_skipBlanks (cs : List Char) :
    ∃ b, Blanks b ∧ cs = b ++ skipBlanks cs := by
  refine ⟨cs.takeWhile isBlank, fun c hc => ?_, (List.takeWhile_append_dropWhile).symm⟩
  exact (isBlank_iff c).mp (List.mem_takeWhile_imp hc)

lemma skipBlanks_eq_nil_iff (cs : List Char) : skipBlanks cs = [] ↔ Blanks cs := by
  rw [skipBlanks, List.dropWhile_eq_nil_iff]
  exact forall₂_congr fun c _ => isBlank_iff c

lemma expect_append {c : Char} {b : List Char} (hb : Blanks b) (hc : isBlank c = false)
    (rest : List Char) : expect c (b ++ c :: rest) = some rest := by
  rw [expect, skipBlanks_append hb (solid_cons hc rest)]
  exact if_pos rfl

/-- After blanks, the text goes on with another character than `c`. -/
def Avoids (c : Char) (cs : List Char) : Prop :=
  ∃ b d tail, Blanks b ∧ cs = b ++ d :: tail ∧ isBlank d = false ∧ d ≠ c

lemma avoids_cons {c d : Char} (hd : isBlank d = false) (hne : d ≠ c) (tail : List Char) :
    Avoids c (d :: tail) :=
  ⟨[], d, tail, blanks_nil, rfl, hd, hne⟩

lemma Avoids.append {c : Char} {cs : List Char} (h : Avoids c cs) (rest : List Char) :
    Avoids c (cs ++ rest) := by
  obtain ⟨b, d, tail, hb, rfl, hd, hne⟩ := h
  exact ⟨b, d, tail ++ rest, hb, List.append_assoc b (d :: tail) rest, hd, hne⟩

lemma Avoids.blanks_append {c : Char} {b cs : List Char} (h : Avoids c cs) (hb : Blanks b) :
    Avoids c (b ++ cs) := by
  obtain ⟨b', d, tail, hb', rfl, hd, hne⟩ := h
  refine ⟨b ++ b', d, tail, ?_, (List.append_assoc b b' (d :: tail)).symm, hd, hne⟩
  exact List.forall_mem_append.mpr ⟨hb, hb'⟩

lemma Avoids.expect_eq_none {c : Char} {cs : List Char} (h : Avoids c cs) : expect c cs = none := by
  obtain ⟨b, d, tail, hb, rfl, hd, hne⟩ := h
  rw [expect, skipBlanks_append hb (solid_cons hd tail)]
  exact if_neg hne

lemma of_skipBlanks_eq_cons {c : Char} {cs rest : List Char} (h : skipBlanks cs = c :: rest) :
    ∃ b, Blanks b ∧ cs = b ++ c :: rest := by
  obtain ⟨b, hb, hcs⟩ := exists_eq_append_skipBlanks cs
  exact ⟨b, hb, by rw [← h]; exact hcs⟩

lemma of_expect {c : Char} {cs rest : List Char} (h : expect c cs = some rest) :
    ∃ b, Blanks b ∧ cs = b ++ c :: rest := by
  rw [expect] at h
  split at h
  · rename_i d tail hd
    split at h
    · rename_i hdc
      cases h
      rw [hdc] at hd
      exact of_skipBlanks_eq_cons hd
    · cases h
  · cases h

/-! ## What comes after -/

/-- What may come after a value: a blank, a comma, a closing bracket or brace, or nothing. -/
def Delimited (rest : List Char) : Prop :=
  ∀ c ∈ rest.head?, isBlank c = true ∨ c = ',' ∨ c = ']' ∨ c = '}'

lemma delimited_comma (rest : List Char) : Delimited (',' :: rest) := by
  intro d hd
  cases hd
  exact Or.inr (Or.inl rfl)

lemma delimited_bracket (rest : List Char) : Delimited (']' :: rest) := by
  intro d hd
  cases hd
  exact Or.inr (Or.inr (Or.inl rfl))

lemma delimited_brace (rest : List Char) : Delimited ('}' :: rest) := by
  intro d hd
  cases hd
  exact Or.inr (Or.inr (Or.inr rfl))

lemma Delimited.append {b rest : List Char} (hb : Blanks b) (h : Delimited rest) :
    Delimited (b ++ rest) := by
  cases b with
  | nil => exact h
  | cons c tail =>
      intro d hd
      cases hd
      exact Or.inl (hb.forall_isBlank c List.mem_cons_self)

/-- No character of a kind stands at the beginning. -/
def Lacks (p : Char → Bool) (rest : List Char) : Prop := ∀ c ∈ rest.head?, p c = false

lemma lacks_cons {p : Char → Bool} {c : Char} (hc : p c = false) (rest : List Char) :
    Lacks p (c :: rest) := by
  intro d hd
  cases hd
  exact hc

/-- Nothing that goes on with a number may come after a value. -/
lemma Delimited.lacks {p : Char → Bool} {rest : List Char} (h : Delimited rest)
    (hp : ∀ c, p c = true → c.isDigit = true ∨ c = '.' ∨ c = 'e' ∨ c = 'E') : Lacks p rest := by
  intro c hc
  by_contra hpc
  have hnumber := hp c (by simpa using hpc)
  have hdelimiter := h c hc
  rw [isBlank_iff] at hdelimiter
  rcases hdelimiter with (rfl | rfl | rfl | rfl) | rfl | rfl | rfl <;>
    exact absurd hnumber (by decide)

lemma Delimited.lacks_digit {rest : List Char} (h : Delimited rest) : Lacks Char.isDigit rest :=
  h.lacks fun _ hc => Or.inl hc

lemma takeWhile_append_of_lacks {p : Char → Bool} {ds rest : List Char}
    (hds : ∀ c ∈ ds, p c = true) (h : Lacks p rest) : (ds ++ rest).takeWhile p = ds := by
  rw [List.takeWhile_append_of_pos hds]
  cases rest with
  | nil => simp
  | cons c tail => simp [h c rfl]

lemma dropWhile_append_of_lacks {p : Char → Bool} {ds rest : List Char}
    (hds : ∀ c ∈ ds, p c = true) (h : Lacks p rest) : (ds ++ rest).dropWhile p = rest := by
  rw [List.dropWhile_append_of_pos hds]
  cases rest with
  | nil => rfl
  | cons c tail => simp [h c rfl]

/-! ## Natural numbers -/

lemma isBlank_eq_false_of_isDigit {c : Char} (hc : c.isDigit = true) : isBlank c = false := by
  by_contra hblank
  rw [Bool.not_eq_false, isBlank_iff] at hblank
  rcases hblank with rfl | rfl | rfl | rfl <;> exact absurd hc (by decide)

lemma Digits.solid {ds : List Char} (h : Digits ds) : Solid ds := by
  rcases ds with _ | ⟨c, tail⟩
  · exact absurd rfl h.1
  · exact solid_cons (isBlank_eq_false_of_isDigit (h.2 c List.mem_cons_self)) tail

lemma Numeral.solid {n : Nat} {ds : List Char} (h : Numeral n ds) : Solid ds :=
  h.digits.solid

/-- **A numeral is read as its number.** -/
theorem readNat_append {n : Nat} {ds rest : List Char} (h : Numeral n ds)
    (hrest : Lacks Char.isDigit rest) : readNat (ds ++ rest) = some (n, rest) := by
  rw [readNat, takeWhile_append_of_lacks h.digits.2 hrest,
    dropWhile_append_of_lacks h.digits.2 hrest]
  split
  · exact absurd rfl h.digits.1
  · exact absurd (h.leading rfl) (by simp)
  · rw [h.value]

/-- **What is read as a number is a numeral.** -/
theorem of_readNat {n : Nat} {cs rest : List Char} (h : readNat cs = some (n, rest)) :
    ∃ ds, Numeral n ds ∧ cs = ds ++ rest := by
  rw [readNat] at h
  split at h
  · cases h
  · cases h
  · rename_i hne hzero
    simp only [Option.some.injEq, Prod.mk.injEq] at h
    obtain ⟨hvalue, hrest⟩ := h
    refine ⟨cs.takeWhile Char.isDigit, ⟨⟨hne, fun c => List.mem_takeWhile_imp⟩, ?_, hvalue⟩, ?_⟩
    · intro hhead
      obtain ⟨tail, htail⟩ := List.head?_eq_some_iff.mp hhead
      cases tail with
      | nil => exact htail
      | cons d tail => exact absurd htail (hzero d tail)
    · rw [← hrest]
      exact (List.takeWhile_append_dropWhile).symm

/-! ## All other numbers -/

lemma skipDigits_append {ds rest : List Char} (h : Digits ds) (hrest : Lacks Char.isDigit rest) :
    skipDigits (ds ++ rest) = some rest := by
  rcases ds with _ | ⟨c, tail⟩
  · exact absurd rfl h.1
  · rw [List.cons_append, skipDigits, if_pos (h.2 c List.mem_cons_self),
      dropWhile_append_of_lacks (fun d hd => h.2 d (List.mem_cons_of_mem c hd)) hrest]

lemma of_skipDigits {cs rest : List Char} (h : skipDigits cs = some rest) :
    ∃ ds, Digits ds ∧ cs = ds ++ rest := by
  rcases cs with _ | ⟨c, tail⟩
  · cases h
  · rw [skipDigits, Option.ite_none_right_eq_some, Option.some.injEq] at h
    obtain ⟨hc, rfl⟩ := h
    refine ⟨c :: tail.takeWhile Char.isDigit, ⟨by simp, fun d hd => ?_⟩, ?_⟩
    · rcases List.mem_cons.mp hd with rfl | hd
      · exact hc
      · exact List.mem_takeWhile_imp hd
    · rw [List.cons_append, List.takeWhile_append_dropWhile]

lemma skipFraction_append {frac rest : List Char} (h : Fraction frac)
    (hdigit : Lacks Char.isDigit rest) (hpoint : Lacks (· == '.') rest) :
    skipFraction (frac ++ rest) = some rest := by
  cases h with
  | absent =>
      rw [List.nil_append, skipFraction]
      intro tail htail
      rw [htail] at hpoint
      exact absurd (hpoint '.' rfl) (by simp)
  | present hds => exact skipDigits_append hds hdigit

lemma of_skipFraction {cs rest : List Char} (h : skipFraction cs = some rest) :
    ∃ frac, Fraction frac ∧ cs = frac ++ rest := by
  rw [skipFraction.eq_def] at h
  split at h
  · obtain ⟨ds, hds, rfl⟩ := of_skipDigits h
    exact ⟨'.' :: ds, .present hds, rfl⟩
  · cases h
    exact ⟨[], .absent, rfl⟩

lemma skipSign_append {sign ds rest : List Char} (hsign : sign = [] ∨ sign = ['+'] ∨ sign = ['-'])
    (h : Digits ds) : skipSign (sign ++ (ds ++ rest)) = ds ++ rest := by
  rcases hsign with rfl | rfl | rfl
  · rcases ds with _ | ⟨c, tail⟩
    · exact absurd rfl h.1
    · have hc := h.2 c List.mem_cons_self
      rw [List.nil_append, List.cons_append, skipSign]
      · rintro _ heq
        cases heq
        exact absurd hc (by decide)
      · rintro _ heq
        cases heq
        exact absurd hc (by decide)
  · rfl
  · rfl

lemma exists_eq_append_skipSign (cs : List Char) :
    ∃ sign, (sign = [] ∨ sign = ['+'] ∨ sign = ['-']) ∧ cs = sign ++ skipSign cs := by
  rw [skipSign.eq_def]
  split
  · exact ⟨['+'], Or.inr (Or.inl rfl), rfl⟩
  · exact ⟨['-'], Or.inr (Or.inr rfl), rfl⟩
  · exact ⟨[], Or.inl rfl, rfl⟩

lemma skipExponent_append {exp rest : List Char} (h : Exponent exp) (hrest : Delimited rest) :
    skipExponent (exp ++ rest) = some rest := by
  cases h with
  | absent =>
      have he : Lacks (fun c => c == 'e' || c == 'E') rest := hrest.lacks fun c hc => by
        simpa [or_assoc] using Or.inr (Or.inr hc)
      rw [List.nil_append, skipExponent]
      · rintro tail rfl
        exact absurd (he 'e' rfl) (by simp)
      · rintro tail rfl
        exact absurd (he 'E' rfl) (by simp)
  | present he hsign hds =>
      have hdigits := skipDigits_append hds hrest.lacks_digit
      rw [← skipSign_append hsign hds] at hdigits
      rw [List.append_assoc, List.cons_append]
      rcases he with rfl | rfl
      · exact hdigits
      · exact hdigits

lemma of_skipExponent {cs rest : List Char} (h : skipExponent cs = some rest) :
    ∃ exp, Exponent exp ∧ cs = exp ++ rest := by
  have hletter : ∀ (e : Char) (tail : List Char), e = 'e' ∨ e = 'E' →
      skipDigits (skipSign tail) = some rest → ∃ exp, Exponent exp ∧ e :: tail = exp ++ rest := by
    intro e tail he hdigits
    obtain ⟨sign, hsign, htail⟩ := exists_eq_append_skipSign tail
    obtain ⟨ds, hds, heq⟩ := of_skipDigits hdigits
    refine ⟨e :: sign ++ ds, .present he hsign hds, ?_⟩
    rw [List.append_assoc, ← heq, List.cons_append, ← htail]
  rw [skipExponent.eq_def] at h
  split at h
  · exact hletter 'e' _ (Or.inl rfl) h
  · exact hletter 'E' _ (Or.inr rfl) h
  · cases h
    exact ⟨[], .absent, rfl⟩

/-- What comes after the whole part of a number does not go on with it. -/
lemma lacks_fraction_exponent {p : Char → Bool} {frac exp rest : List Char} (hfrac : Fraction frac)
    (hexp : Exponent exp) (hrest : Delimited rest) (hp : ∀ c, p c = true → c.isDigit = true) :
    Lacks p (frac ++ (exp ++ rest)) := by
  have hnot : ∀ c, c.isDigit = false → p c = false := fun c hc => by
    by_contra hpc
    exact absurd (hp c (by simpa using hpc)) (by simp [hc])
  cases hfrac with
  | present => exact lacks_cons (hnot '.' (by decide)) _
  | absent =>
      cases hexp with
      | absent => exact hrest.lacks fun c hc => Or.inl (hp c hc)
      | present he =>
          rcases he with rfl | rfl
          · exact lacks_cons (hnot 'e' (by decide)) _
          · exact lacks_cons (hnot 'E' (by decide)) _

/-- **A number is read to its end.** -/
theorem skipUnsigned_append {n : Nat} {whole frac exp rest : List Char} (hwhole : Numeral n whole)
    (hfrac : Fraction frac) (hexp : Exponent exp) (hrest : Delimited rest) :
    skipUnsigned (whole ++ (frac ++ (exp ++ rest))) = some rest := by
  have hdigit : Lacks Char.isDigit (frac ++ (exp ++ rest)) :=
    lacks_fraction_exponent hfrac hexp hrest fun _ hc => hc
  have hdigit' : Lacks Char.isDigit (exp ++ rest) :=
    lacks_fraction_exponent .absent hexp hrest fun _ hc => hc
  have hpoint : Lacks (· == '.') (exp ++ rest) := by
    cases hexp with
    | absent => exact hrest.lacks fun c hc => Or.inr (Or.inl (by simpa using hc))
    | present he => rcases he with rfl | rfl <;> exact lacks_cons rfl _
  rw [skipUnsigned, readNat_append hwhole hdigit]
  simp only [skipFraction_append hfrac hdigit' hpoint, Option.bind_some,
    skipExponent_append hexp hrest]

/-- **What is read to its end is a number.** -/
theorem of_skipUnsigned {sign cs rest : List Char} (hsign : sign = [] ∨ sign = ['-'])
    (h : skipUnsigned cs = some rest) : ∃ number, Number number ∧ sign ++ cs = number ++ rest := by
  rw [skipUnsigned] at h
  split at h
  · rename_i n tail hn
    obtain ⟨tail', hpoint, hletter⟩ := Option.bind_eq_some_iff.mp h
    obtain ⟨whole, hwhole, rfl⟩ := of_readNat hn
    obtain ⟨frac, hfrac, rfl⟩ := of_skipFraction hpoint
    obtain ⟨exp, hexp, rfl⟩ := of_skipExponent hletter
    refine ⟨sign ++ (whole ++ (frac ++ exp)), .mk hsign hwhole hfrac hexp, ?_⟩
    simp only [List.append_assoc]
  · cases h

/-! ## Strings -/

lemma hexValue?_digitChar : ∀ n < 16,
    hexValue? (Nat.digitChar n) = some n ∧ hexValue? (Nat.digitChar n).toUpper = some n := by
  decide

lemma hexValue?_of_hexDigit {n : Nat} {c : Char} (h : HexDigit n c) : hexValue? c = some n := by
  obtain ⟨hn, rfl | rfl⟩ := h
  · exact (hexValue?_digitChar n hn).1
  · exact (hexValue?_digitChar n hn).2

/-- The hexadecimal digits of each of the three ranges, by their place in the range. -/
lemma hexDigit_of_place :
    (∀ k < 10, HexDigit k (Char.ofNat (48 + k))) ∧
      (∀ k < 6, HexDigit (k + 10) (Char.ofNat (97 + k))) ∧
      ∀ k < 6, HexDigit (k + 10) (Char.ofNat (65 + k)) := by
  simp only [HexDigit]
  decide

lemma eq_ofNat_place {c : Char} {base : Nat} (h : base ≤ c.toNat) :
    Char.ofNat (base + (c.toNat - base)) = c := by
  rw [Nat.add_sub_cancel' h, Char.ofNat_toNat]

lemma hexDigit_of_hexValue? {n : Nat} {c : Char} (h : hexValue? c = some n) : HexDigit n c := by
  obtain ⟨hdigit, hlower, hupper⟩ := hexDigit_of_place
  have h48 : '0'.toNat = 48 := rfl
  have h97 : 'a'.toNat = 97 := rfl
  have h65 : 'A'.toNat = 65 := rfl
  rw [hexValue?, h48, h97, h65] at h
  split_ifs at h with h₁ h₂ h₃
  · obtain ⟨hlow, hhigh⟩ : 48 ≤ c.toNat ∧ c.toNat ≤ 57 := Char.isDigit_iff_toNat.mp h₁
    have hplace := hdigit (c.toNat - 48) (by omega)
    rw [eq_ofNat_place hlow] at hplace
    rwa [← Option.some.inj h]
  · obtain ⟨hlow, hhigh⟩ : 97 ≤ c.toNat ∧ c.toNat ≤ 102 := h₂
    have hplace := hlower (c.toNat - 97) (by omega)
    rw [eq_ofNat_place hlow] at hplace
    rwa [← Option.some.inj h]
  · obtain ⟨hlow, hhigh⟩ : 65 ≤ c.toNat ∧ c.toNat ≤ 70 := h₃
    have hplace := hupper (c.toNat - 65) (by omega)
    rw [eq_ofNat_place hlow] at hplace
    rwa [← Option.some.inj h]

lemma unit?_of_hexDigit {h₃ h₂ h₁ h₀ : Char} {n₃ n₂ n₁ n₀ : Nat} (d₃ : HexDigit n₃ h₃)
    (d₂ : HexDigit n₂ h₂) (d₁ : HexDigit n₁ h₁) (d₀ : HexDigit n₀ h₀) :
    unit? h₃ h₂ h₁ h₀ = some (n₃ * 0x1000 + n₂ * 0x100 + n₁ * 0x10 + n₀) := by
  rw [unit?, hexValue?_of_hexDigit d₃, hexValue?_of_hexDigit d₂, hexValue?_of_hexDigit d₁,
    hexValue?_of_hexDigit d₀, Option.some.injEq]
  omega

lemma pieceText_of_unit? {h₃ h₂ h₁ h₀ : Char} {n : Nat} (h : unit? h₃ h₂ h₁ h₀ = some n) :
    PieceText (.unit n) ['\\', 'u', h₃, h₂, h₁, h₀] := by
  rw [unit?] at h
  split at h
  · rename_i n₃ n₂ n₁ n₀ e₃ e₂ e₁ e₀
    have hn : n = n₃ * 0x1000 + n₂ * 0x100 + n₁ * 0x10 + n₀ := by
      rw [← Option.some.inj h]
      omega
    rw [hn]
    exact .unit (hexDigit_of_hexValue? e₃) (hexDigit_of_hexValue? e₂) (hexDigit_of_hexValue? e₁)
      (hexDigit_of_hexValue? e₀)
  · cases h

/-- The table of short escapes is the one that is read. -/
lemma shortEscape?_eq_some_iff {e c : Char} :
    shortEscape? e = some c ↔ (e, c) ∈ shortEscapes := by
  constructor
  · intro h
    rw [shortEscape?.eq_def] at h
    split at h <;> cases h <;> decide
  · intro h
    simp only [shortEscapes, List.mem_cons, Prod.mk.injEq, List.not_mem_nil, or_false] at h
    rcases h with ⟨rfl, rfl⟩ | ⟨rfl, rfl⟩ | ⟨rfl, rfl⟩ | ⟨rfl, rfl⟩ | ⟨rfl, rfl⟩ | ⟨rfl, rfl⟩ |
      ⟨rfl, rfl⟩ | ⟨rfl, rfl⟩ <;> rfl

/-- One place of a string is read as what it says. -/
lemma pieces_append_piece {acc : List Piece} {p : Piece} {cs : List Char} (h : PieceText p cs)
    (rest : List Char) : pieces acc (cs ++ rest) = pieces (p :: acc) rest := by
  cases h with
  | @plain c hcontrol hquote hbackslash =>
      have hlt : ¬ (c < ' ' ∨ c = '\\') := by
        rintro (hlt | rfl)
        · exact absurd (show c.toNat < 0x20 from hlt) (Nat.not_lt.mpr hcontrol)
        · exact hbackslash rfl
      rw [List.singleton_append, pieces, if_neg hlt]
      · exact hquote
      · rintro _ _ _ _ _ rfl
        exact absurd rfl hbackslash
      · rintro _ _ rfl
        exact absurd rfl hbackslash
  | @short e c h =>
      rw [List.cons_append, List.singleton_append, pieces, shortEscape?_eq_some_iff.mpr h]
      rintro _ _ _ _ _ rfl
      simp [shortEscapes] at h
  | unit d₃ d₂ d₁ d₀ =>
      simp only [List.cons_append, List.nil_append, pieces, unit?_of_hexDigit d₃ d₂ d₁ d₀]

lemma pieces_append {ps : List Piece} {body : List Char} (h : Pieces ps body) (acc : List Piece)
    (rest : List Char) : pieces acc (body ++ '"' :: rest) = some (acc.reverse ++ ps, rest) := by
  induction h generalizing acc with
  | nil => rw [List.nil_append, pieces, List.append_nil]
  | cons hp _ ih =>
      rw [List.append_assoc, pieces_append_piece hp, ih, List.reverse_cons, List.append_assoc,
        List.singleton_append]

lemma of_pieces {acc ps : List Piece} {cs rest : List Char}
    (h : pieces acc cs = some (ps, rest)) :
    ∃ qs body, Pieces qs body ∧ ps = acc.reverse ++ qs ∧ cs = body ++ '"' :: rest := by
  -- One more piece in front of the ones that the rest of the text gives.
  have hstep : ∀ {acc : List Piece} {p : Piece} {text tail : List Char}, PieceText p text →
      (∃ qs body, Pieces qs body ∧ ps = (p :: acc).reverse ++ qs ∧ tail = body ++ '"' :: rest) →
      ∃ qs body, Pieces qs body ∧ ps = acc.reverse ++ qs ∧ text ++ tail = body ++ '"' :: rest := by
    rintro acc p text tail hp ⟨qs, body, hqs, rfl, rfl⟩
    exact ⟨p :: qs, text ++ body, .cons hp hqs, by simp, by simp⟩
  fun_induction pieces acc cs with
  | case1 => cases h
  | case2 acc tail =>
      cases h
      exact ⟨[], [], .nil, (List.append_nil _).symm, rfl⟩
  | case3 acc a b c d tail n hn ih => exact hstep (pieceText_of_unit? hn) (ih h)
  | case4 => cases h
  | case5 acc e tail hne c hc ih =>
      exact hstep (.short (shortEscape?_eq_some_iff.mp hc)) (ih h)
  | case6 => cases h
  | case7 => cases h
  | case8 acc c tail hquote _ _ hc ih =>
      obtain ⟨hcontrol, hbackslash⟩ := not_or.mp hc
      exact hstep (.plain (Nat.not_lt.mp hcontrol) hquote hbackslash) (ih h)

/-! ### What a string stands for -/

lemma isHighHalf_iff (n : Nat) : isHighHalf n = true ↔ 0xD800 ≤ n ∧ n < 0xDC00 := by
  simp [isHighHalf]

lemma isLowHalf_iff (n : Nat) : isLowHalf n = true ↔ 0xDC00 ≤ n ∧ n < 0xE000 := by
  simp [isLowHalf]

lemma isHalf_eq_false_iff (n : Nat) :
    (isHighHalf n = false ∧ isLowHalf n = false) ↔ n < 0xD800 ∨ 0xE000 ≤ n := by
  rw [← Bool.not_eq_true, ← Bool.not_eq_true, isHighHalf_iff, isLowHalf_iff]
  omega

lemma join_eq_some {ps : List Piece} {text : List Char} (h : Spells ps text) (acc : List Char) :
    join acc ps = some (acc.reverse ++ text) := by
  induction h generalizing acc with
  | nil => rw [join, List.append_nil]
  | char _ ih => rw [join, ih, List.reverse_cons, List.append_assoc, List.singleton_append]
  | @unit n ps text hn hs ih =>
      obtain ⟨hhigh, hlow⟩ := (isHalf_eq_false_iff n).mpr hn
      cases hs with
      | nil => simp [join, hhigh, hlow]
      | char | unit | pair =>
          rw [join, hhigh, hlow, if_neg Bool.false_ne_true, if_neg Bool.false_ne_true, ih,
            List.reverse_cons, List.append_assoc, List.singleton_append]
  | pair hm hn _ ih =>
      rw [join, if_pos ((isHighHalf_iff _).mpr hm), if_pos ((isLowHalf_iff _).mpr hn), ih,
        List.reverse_cons, List.append_assoc, List.singleton_append]

lemma of_join {acc : List Char} {ps : List Piece} {chars : List Char}
    (h : join acc ps = some chars) : ∃ text, Spells ps text ∧ chars = acc.reverse ++ text := by
  fun_induction join acc ps with
  | case1 acc =>
      cases h
      exact ⟨[], .nil, (List.append_nil _).symm⟩
  | case2 acc c rest ih =>
      obtain ⟨text, hs, rfl⟩ := ih h
      exact ⟨c :: text, .char hs, by simp⟩
  | case3 => cases h
  | case4 acc n hn =>
      rw [Bool.not_eq_true, Bool.or_eq_false_iff, isHalf_eq_false_iff] at hn
      cases h
      exact ⟨[Char.ofNat n], .unit hn .nil, by simp⟩
  | case5 acc n rest hhigh m hlow ih =>
      obtain ⟨text, hs, rfl⟩ := ih h
      exact ⟨_ :: text, .pair ((isHighHalf_iff n).mp hhigh) ((isLowHalf_iff m).mp hlow) hs, by simp⟩
  | case6 => cases h
  | case7 => cases h
  | case8 => cases h
  | case9 acc n p rest hhigh hlow ih =>
      rw [Bool.not_eq_true] at hhigh hlow
      obtain ⟨text, hs, rfl⟩ := ih h
      exact ⟨_ :: text, .unit ((isHalf_eq_false_iff n).mp ⟨hhigh, hlow⟩) hs, by simp⟩

/-! ### Whole strings -/

lemma pieces_of_inQuotes {ps : List Piece} {b cs : List Char} (hb : Blanks b)
    (h : InQuotes ps cs) (rest : List Char) :
    ∃ body, expect '"' (b ++ (cs ++ rest)) = some body ∧ pieces [] body = some (ps, rest) := by
  obtain ⟨hbody⟩ := h
  refine ⟨_, ?_, pieces_append hbody [] rest⟩
  rw [List.cons_append, List.cons_append, List.append_assoc, List.singleton_append]
  exact expect_append hb rfl _

lemma inQuotes_of_pieces {ps : List Piece} {cs body rest : List Char}
    (hexpect : expect '"' cs = some body) (h : pieces [] body = some (ps, rest)) :
    ∃ b quoted, Blanks b ∧ InQuotes ps quoted ∧ cs = b ++ (quoted ++ rest) := by
  obtain ⟨b, hb, rfl⟩ := of_expect hexpect
  obtain ⟨qs, text, hqs, rfl, rfl⟩ := of_pieces h
  refine ⟨b, '"' :: text ++ ['"'], hb, .mk hqs, ?_⟩
  rw [List.cons_append, List.cons_append, List.append_assoc, List.singleton_append]

/-- **A string is read as the text it stands for.** -/
theorem readString_append {text b cs : List Char} (hb : Blanks b) (h : StringFor text cs)
    (rest : List Char) : readString (b ++ (cs ++ rest)) = some (text, rest) := by
  obtain ⟨ps, hquotes, hspells⟩ := h
  obtain ⟨body, hexpect, hpieces⟩ := pieces_of_inQuotes hb hquotes rest
  rw [readString, hexpect]
  simp only [hpieces, join_eq_some hspells, Option.map_some, List.reverse_nil, List.nil_append]

/-- **What is read as a text is a string that stands for it.** -/
theorem of_readString {text cs rest : List Char} (h : readString cs = some (text, rest)) :
    ∃ b quoted, Blanks b ∧ StringFor text quoted ∧ cs = b ++ (quoted ++ rest) := by
  rw [readString] at h
  split at h
  · cases h
  · rename_i body hexpect
    split at h
    · cases h
    · rename_i ps tail hpieces
      obtain ⟨chars, hjoin, heq⟩ := Option.map_eq_some_iff.mp h
      cases heq
      obtain ⟨spelled, hspells, htext⟩ := of_join hjoin
      rw [List.reverse_nil, List.nil_append] at htext
      obtain ⟨b, quoted, hb, hquotes, hcs⟩ := inQuotes_of_pieces hexpect hpieces
      exact ⟨b, quoted, hb, ⟨ps, hquotes, htext ▸ hspells⟩, hcs⟩

/-- A string is skipped whatever it stands for. -/
lemma skipString_append {ps : List Piece} {b cs : List Char} (hb : Blanks b) (h : InQuotes ps cs)
    (rest : List Char) : skipString (b ++ (cs ++ rest)) = some rest := by
  obtain ⟨body, hexpect, hpieces⟩ := pieces_of_inQuotes hb h rest
  rw [skipString, hexpect]
  simp only [hpieces, Option.map_some]

lemma of_skipString {cs rest : List Char} (h : skipString cs = some rest) :
    ∃ ps b quoted, Blanks b ∧ InQuotes ps quoted ∧ cs = b ++ (quoted ++ rest) := by
  rw [skipString] at h
  split at h
  · cases h
  · rename_i body hexpect
    obtain ⟨⟨ps, tail⟩, hpieces, rfl⟩ := Option.map_eq_some_iff.mp h
    exact ⟨ps, inQuotes_of_pieces hexpect hpieces⟩

end Json

end ChipVm
