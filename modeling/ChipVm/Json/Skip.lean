import ChipVm.Json.Lexeme

/-!
# Skipping a JSON value

A value that nobody asked for still has to be well formed.  Skipping a value reads it from its first
character to its last without keeping anything, however deeply it is nested: what is still open is
kept on a list, innermost first, so that depth costs no more than length.

* `Json.Bracket` — an array or an object that is still open.
* `Json.enterValue`, `Json.leaveValue` — one step, before a value or after one.
* `Json.skipFrom` — goes on reading at a place, until everything that is open has been closed.
* `Json.skipValue` — a whole value.
* **`Json.length_skipFrom_le`**, **`Json.length_skipValue_lt`** — a value takes at least one
  character.
-/

namespace ChipVm

namespace Json

/-- What is still open around the place where one reads. -/
inductive Bracket where
  | array
  | object
  deriving DecidableEq, Repr

/-- Where one reads: before a value, or after one. -/
inductive Place where
  | value
  | after
  deriving DecidableEq, Repr

/-- The name of a member of an object and the colon after it. -/
def skipName (cs : List Char) : Option (List Char) := (skipString cs).bind (expect ':')

theorem length_skipName_lt {cs rest : List Char} (h : skipName cs = some rest) :
    rest.length < cs.length := by
  obtain ⟨mid, hmid, hrest⟩ := Option.bind_eq_some_iff.mp h
  have h₁ := length_skipString_lt hmid
  have h₂ := length_expect_lt hrest
  omega

/-- Where one is after the start of a value: a value without parts is read whole, and of an array or
an object only its opening bracket, with the name of its first member. -/
def enterValue (opened : List Bracket) (cs : List Char) :
    Option (Place × List Bracket × List Char) :=
  match skipBlanks cs with
  | '[' :: rest =>
      match expect ']' rest with
      | some tail => some (.after, opened, tail)
      | none => some (.value, .array :: opened, rest)
  | '{' :: rest =>
      match expect '}' rest with
      | some tail => some (.after, opened, tail)
      | none => (skipName rest).map fun tail => (.value, .object :: opened, tail)
  | text => (skipScalar text).map fun tail => (.after, opened, tail)

/-- Where one is after what follows a value inside a bracket: a comma, with the name of the next
member, or the closing bracket. -/
def leaveValue (bracket : Bracket) (outer : List Bracket) (cs : List Char) :
    Option (Place × List Bracket × List Char) :=
  match skipBlanks cs, bracket with
  | ',' :: rest, .array => some (.value, .array :: outer, rest)
  | ']' :: rest, .array => some (.after, outer, rest)
  | ',' :: rest, .object => (skipName rest).map fun tail => (.value, .object :: outer, tail)
  | '}' :: rest, .object => some (.after, outer, rest)
  | _, _ => none

theorem length_enterValue_lt {opened opened' : List Bracket} {cs rest : List Char} {place : Place}
    (h : enterValue opened cs = some (place, opened', rest)) : rest.length < cs.length := by
  have hle := length_skipBlanks_le cs
  unfold enterValue at h
  split at h
  · rename_i tail htail
    have h₁ := length_lt_of_skipBlanks_eq_cons htail
    split at h
    · rename_i tail' htail'
      have h₂ := length_expect_lt htail'
      cases h
      omega
    · cases h
      exact h₁
  · rename_i tail htail
    have h₁ := length_lt_of_skipBlanks_eq_cons htail
    split at h
    · rename_i tail' htail'
      have h₂ := length_expect_lt htail'
      cases h
      omega
    · obtain ⟨tail', htail', heq⟩ := Option.map_eq_some_iff.mp h
      have h₂ := length_skipName_lt htail'
      cases heq
      omega
  · obtain ⟨tail', htail', heq⟩ := Option.map_eq_some_iff.mp h
    have h₂ := length_skipScalar_lt htail'
    cases heq
    omega

theorem length_leaveValue_lt {bracket : Bracket} {outer opened : List Bracket}
    {cs rest : List Char} {place : Place}
    (h : leaveValue bracket outer cs = some (place, opened, rest)) : rest.length < cs.length := by
  unfold leaveValue at h
  split at h
  · rename_i tail htail
    cases h
    exact length_lt_of_skipBlanks_eq_cons htail
  · rename_i tail htail
    cases h
    exact length_lt_of_skipBlanks_eq_cons htail
  · rename_i tail htail
    obtain ⟨tail', htail', heq⟩ := Option.map_eq_some_iff.mp h
    have h₁ := length_lt_of_skipBlanks_eq_cons htail
    have h₂ := length_skipName_lt htail'
    cases heq
    omega
  · rename_i tail htail
    cases h
    exact length_lt_of_skipBlanks_eq_cons htail
  · cases h

/-- Goes on reading, before a value or after one, until everything that is open has been closed. -/
def skipFrom (place : Place) (opened : List Bracket) (cs : List Char) : Option (List Char) :=
  match place, opened with
  | .after, [] => some cs
  | .after, bracket :: outer =>
      match _h : leaveValue bracket outer cs with
      | some (place', opened', rest) => skipFrom place' opened' rest
      | none => none
  | .value, opened =>
      match _h : enterValue opened cs with
      | some (place', opened', rest) => skipFrom place' opened' rest
      | none => none
termination_by cs.length
decreasing_by
  · exact length_leaveValue_lt _h
  · exact length_enterValue_lt _h

/-- What is left after any amount of reading is no longer than what there was. -/
theorem length_skipFrom_le {place : Place} {opened : List Bracket} {cs rest : List Char}
    (h : skipFrom place opened cs = some rest) : rest.length ≤ cs.length := by
  fun_induction skipFrom place opened cs with
  | case1 =>
      cases h
      exact Nat.le_refl _
  | case2 _ _ _ _ _ _ hstep ih =>
      have h₁ := length_leaveValue_lt hstep
      have h₂ := ih h
      omega
  | case3 => cases h
  | case4 _ _ _ _ _ hstep ih =>
      have h₁ := length_enterValue_lt hstep
      have h₂ := ih h
      omega
  | case5 => cases h

/-- A whole value, with the blanks before it. -/
def skipValue (cs : List Char) : Option (List Char) := skipFrom .value [] cs

/-- **A value takes at least one character.** -/
theorem length_skipValue_lt {cs rest : List Char} (h : skipValue cs = some rest) :
    rest.length < cs.length := by
  unfold skipValue at h
  rw [skipFrom] at h
  split at h
  · rename_i hstep
    have h₁ := length_enterValue_lt hstep
    have h₂ := length_skipFrom_le h
    omega
  · cases h

end Json

end ChipVm
