import ChipVm.Json.Skip
import ChipVm.SaveFile.Writer

/-!
# Reading a saved state

A saved state is read strictly: what does not fit is refused and never adjusted.  The text is one
JSON value with nothing but blanks around it, in one of two forms.

* An object has each of the eight fields exactly once, in any order.  Members with other names may
  stand anywhere between them, any number of times; their values are skipped.
* An array has exactly the eight values, in the usual order of the fields.

A number has to be a natural number that fits its field, and an array of numbers has to have
exactly as many as its field holds; only the stack may have any length.  A text that was read
can still describe a state that no program could have produced, and such a state is refused too,
but only after the whole text has been read.

* `SaveFile.readNats` — an array of numbers, last one first.
* `SaveFile.readField` — what a field holds.
* `SaveFile.readMembers`, `SaveFile.readValues` — the two forms.
* `SaveFile.read` — a whole text; `State.restore` — the same with validation.
* **`SaveFile.length_readField_lt`** — reading a field takes at least one character.
* **`State.restore_valid`** — a state that is accepted is valid.
-/

namespace ChipVm

namespace SaveFile

open Json

/-! ## Numbers -/

/-- A number below `bound`, with the blanks before it. -/
def readBelow (bound : Nat) (cs : List Char) : Option (Nat × List Char) :=
  match readNat (skipBlanks cs) with
  | some (n, rest) => if n < bound then some (n, rest) else none
  | none => none

theorem length_readBelow_lt {bound n : Nat} {cs rest : List Char}
    (h : readBelow bound cs = some (n, rest)) : rest.length < cs.length := by
  have hle := length_skipBlanks_le cs
  unfold readBelow at h
  split at h
  · rename_i m tail hm
    split at h
    · cases h
      have := length_readNat_lt hm
      omega
    · cases h
  · cases h

/-- The numbers of an array below `bound`, from the first one on, up to the closing bracket.  The
numbers so far are in `acc`, last one first, and so is the result. -/
def readItems (bound : Nat) (acc : List Nat) (cs : List Char) : Option (List Nat × List Char) :=
  match _h : readBelow bound cs with
  | some (n, rest) =>
      match _hrest : skipBlanks rest with
      | ',' :: tail => readItems bound (n :: acc) tail
      | ']' :: tail => some (n :: acc, tail)
      | _ => none
  | none => none
termination_by cs.length
decreasing_by
  have h₁ := length_readBelow_lt _h
  have h₂ := length_lt_of_skipBlanks_eq_cons _hrest
  omega

/-- An array of numbers below `bound`; the last number comes first. -/
def readNats (bound : Nat) (cs : List Char) : Option (List Nat × List Char) :=
  match expect '[' cs with
  | some body =>
      match expect ']' body with
      | some rest => some ([], rest)
      | none => readItems bound [] body
  | none => none

theorem length_readItems_lt {bound : Nat} {acc ns : List Nat} {cs rest : List Char}
    (h : readItems bound acc cs = some (ns, rest)) : rest.length < cs.length := by
  fun_induction readItems bound acc cs with
  | case1 acc cs n mid hn tail htail ih =>
      have h₁ := length_readBelow_lt hn
      have h₂ := length_lt_of_skipBlanks_eq_cons htail
      have h₃ := ih h
      omega
  | case2 acc cs n mid hn tail htail =>
      have h₁ := length_readBelow_lt hn
      have h₂ := length_lt_of_skipBlanks_eq_cons htail
      cases h
      omega
  | case3 => cases h
  | case4 => cases h

theorem length_readNats_lt {bound : Nat} {ns : List Nat} {cs rest : List Char}
    (h : readNats bound cs = some (ns, rest)) : rest.length < cs.length := by
  unfold readNats at h
  split at h
  · rename_i body hbody
    have h₁ := length_expect_lt hbody
    split at h
    · rename_i tail htail
      have h₂ := length_expect_lt htail
      cases h
      omega
    · have h₂ := length_readItems_lt h
      omega
  · cases h

/-- An array of exactly `n` bytes. -/
def readBytes (n : Nat) (cs : List Char) : Option (Vector UInt8 n × List Char) :=
  match readNats 0x100 cs with
  | some (ns, rest) =>
      if h : ns.length = n then
        some (⟨(ns.reverse.map UInt8.ofNat).toArray, by simp [h]⟩, rest)
      else none
  | none => none

theorem length_readBytes_lt {n : Nat} {bytes : Vector UInt8 n} {cs rest : List Char}
    (h : readBytes n cs = some (bytes, rest)) : rest.length < cs.length := by
  unfold readBytes at h
  split at h
  · rename_i ns tail hns
    split at h
    · cases h
      exact length_readNats_lt hns
    · cases h
  · cases h

/-- A byte. -/
def readByte (cs : List Char) : Option (UInt8 × List Char) :=
  (readBelow 0x100 cs).map fun (n, rest) => (UInt8.ofNat n, rest)

/-- A 16-bit word. -/
def readWord (cs : List Char) : Option (UInt16 × List Char) :=
  (readBelow 0x10000 cs).map fun (n, rest) => (UInt16.ofNat n, rest)

/-- An array of 16-bit words; the last word comes first. -/
def readWords (cs : List Char) : Option (List UInt16 × List Char) :=
  (readNats 0x10000 cs).map fun (ns, rest) => (ns.map UInt16.ofNat, rest)

/-! ## Fields -/

/-- What a field holds. -/
def readField : (f : Field) → List Char → Option (f.Value × List Char)
  | .memory, cs => readBytes memorySize cs
  | .v, cs => readBytes 16 cs
  | .i, cs => readWord cs
  | .pc, cs => readWord cs
  | .stack, cs => readWords cs
  | .display, cs => readBytes displaySize cs
  | .delayTimer, cs => readByte cs
  | .soundTimer, cs => readByte cs

theorem length_readByte_lt {b : UInt8} {cs rest : List Char}
    (h : readByte cs = some (b, rest)) : rest.length < cs.length := by
  obtain ⟨⟨n, tail⟩, hn, heq⟩ := Option.map_eq_some_iff.mp h
  cases heq
  exact length_readBelow_lt hn

theorem length_readWord_lt {w : UInt16} {cs rest : List Char}
    (h : readWord cs = some (w, rest)) : rest.length < cs.length := by
  obtain ⟨⟨n, tail⟩, hn, heq⟩ := Option.map_eq_some_iff.mp h
  cases heq
  exact length_readBelow_lt hn

theorem length_readWords_lt {ws : List UInt16} {cs rest : List Char}
    (h : readWords cs = some (ws, rest)) : rest.length < cs.length := by
  obtain ⟨⟨ns, tail⟩, hns, heq⟩ := Option.map_eq_some_iff.mp h
  cases heq
  exact length_readNats_lt hns

/-- **Reading a field takes at least one character.** -/
theorem length_readField_lt {f : Field} {value : f.Value} {cs rest : List Char}
    (h : readField f cs = some (value, rest)) : rest.length < cs.length := by
  cases f with
  | memory => exact length_readBytes_lt h
  | v => exact length_readBytes_lt h
  | i => exact length_readWord_lt h
  | pc => exact length_readWord_lt h
  | stack => exact length_readWords_lt h
  | display => exact length_readBytes_lt h
  | delayTimer => exact length_readByte_lt h
  | soundTimer => exact length_readByte_lt h

/-! ## The form of an object -/

/-- One member of an object, taken into the draft if it is a field.  A field that has been filled in
before is refused. -/
def readMember (d : Draft) (cs : List Char) : Option (Draft × List Char) :=
  match readString cs with
  | none => none
  | some (name, afterName) =>
      match expect ':' afterName with
      | none => none
      | some body =>
          match Field.ofName? name with
          | none => (skipValue body).map fun rest => (d, rest)
          | some f =>
              if (d f).isSome then none
              else (readField f body).map fun (value, rest) => (d.put f value, rest)

theorem length_readMember_lt {d d' : Draft} {cs rest : List Char}
    (h : readMember d cs = some (d', rest)) : rest.length < cs.length := by
  unfold readMember at h
  split at h
  · cases h
  · rename_i name afterName hname
    have h₁ := length_readString_lt hname
    split at h
    · cases h
    · rename_i body hbody
      have h₂ := length_expect_lt hbody
      split at h
      · obtain ⟨tail, htail, heq⟩ := Option.map_eq_some_iff.mp h
        have h₃ := length_skipValue_lt htail
        cases heq
        omega
      · split at h
        · cases h
        · obtain ⟨⟨value, tail⟩, hvalue, heq⟩ := Option.map_eq_some_iff.mp h
          have h₃ := length_readField_lt hvalue
          cases heq
          omega

/-- The members of an object, from the first one on, up to the closing brace. -/
def readMembers (d : Draft) (cs : List Char) : Option (Draft × List Char) :=
  match _h : readMember d cs with
  | some (d', rest) =>
      match _hrest : skipBlanks rest with
      | ',' :: tail => readMembers d' tail
      | '}' :: tail => some (d', tail)
      | _ => none
  | none => none
termination_by cs.length
decreasing_by
  have h₁ := length_readMember_lt _h
  have h₂ := length_lt_of_skipBlanks_eq_cons _hrest
  omega

/-! ## The form of an array -/

/-- The values of the given fields, with `opening` before the first one and a comma before each of
the others; then the closing bracket. -/
def readValues (opening : Char) (d : Draft) :
    List Field → List Char → Option (Draft × List Char)
  | [], cs => (expect ']' cs).map fun rest => (d, rest)
  | f :: fields, cs =>
      match expect opening cs with
      | none => none
      | some body =>
          match readField f body with
          | none => none
          | some (value, rest) => readValues ',' (d.put f value) fields rest

/-! ## A whole text -/

/-- The draft that a text describes, in either form, and what is left of the text. -/
def readDraft (cs : List Char) : Option (Draft × List Char) :=
  match expect '{' cs with
  | some body => readMembers Draft.empty body
  | none => readValues '[' Draft.empty Field.all cs

/-- The state that a text describes, if it is a saved state. -/
def read (cs : List Char) : Option State :=
  match readDraft cs with
  | some (d, rest) => if skipBlanks rest = [] then d.state? else none
  | none => none

end SaveFile

/-- The state that a text describes, unless the text is no saved state or no program could have
produced the state. -/
def State.restore (text : String) : Except Fault State :=
  match SaveFile.read text.toList with
  | some s => s.validate
  | none => .error .malformedSave

/-- **A state that is accepted is valid.** -/
theorem State.restore_valid {text : String} {s : State} (h : State.restore text = .ok s) :
    s.Valid := by
  unfold restore at h
  split at h
  · rename_i t ht
    unfold validate at h
    split at h
    · cases h
    · rename_i hdefect
      cases h
      exact (defect?_eq_none_iff _).mp hdefect
  · cases h

end ChipVm
