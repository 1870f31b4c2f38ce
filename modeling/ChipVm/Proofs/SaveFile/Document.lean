import ChipVm.SaveFile.Field
import ChipVm.Proofs.Json.Grammar

/-!
# The grammar of saved states

Which texts describe which state, said without reading them.  A document is one JSON value with
nothing but blanks around it.  As an array it holds the values of the eight fields in their usual
order; as an object it holds members in any order, of which exactly one gives each field, while the
values of all other members only have to be well formed.

* `NumberArray`, `FieldText` — how the value of a field is written.
* `Entry`, `EntryText` — what a member of the object says.
* `Document` — the texts that describe a state.
* **`takeAll_eq_some_iff`** — taking entries into a draft one by one, with every second entry for a
  field refused, is the same as asking that each field is given once.
-/

namespace ChipVm

namespace SaveFile

open Json

/-! ## Values -/

/-- Some numbers in square brackets. -/
inductive NumberArray : List Nat → List Char → Prop
  | empty {b : List Char} (h : Blanks b) : NumberArray [] ('[' :: b ++ [']'])
  | items {ns : List Nat} {cs : List Char}
      (h : Separated (fun n => Padded (Numeral n)) ns cs) : NumberArray ns ('[' :: cs ++ [']'])

/-- How what a field holds is written.  The stack begins with its outermost return address. -/
def FieldText : (f : Field) → f.Value → List Char → Prop
  | .memory, memory => NumberArray (memory.toList.map UInt8.toNat)
  | .v, v => NumberArray (v.toList.map UInt8.toNat)
  | .i, i => Numeral i.toNat
  | .pc, pc => Numeral pc.toNat
  | .stack, stack => NumberArray (stack.reverse.map UInt16.toNat)
  | .display, display => NumberArray (display.toList.map UInt8.toNat)
  | .delayTimer, timer => Numeral timer.toNat
  | .soundTimer, timer => Numeral timer.toNat

/-! ## Members -/

/-- What a member of an object says about the state: the value of a field, or nothing. -/
inductive Entry where
  | field (f : Field) (value : f.Value)
  | other

/-- The value that an entry gives a field, if it gives it one. -/
def Entry.value? : Entry → (f : Field) → Option f.Value
  | .field g value, f => if h : g = f then some (h ▸ value) else none
  | .other, _ => none

/-- How a member is written: a name, a colon and a value.  A name may be written with escapes, and
counts as what it stands for. -/
inductive EntryText : Entry → List Char → Prop
  | field {before name after cs : List Char} {f : Field} {value : f.Value}
      (hbefore : Blanks before) (hname : StringFor f.name.toList name) (hafter : Blanks after)
      (h : Padded (FieldText f value) cs) :
      EntryText (.field f value) (before ++ (name ++ (after ++ ':' :: cs)))
  | other {before name after cs text : List Char} (hbefore : Blanks before)
      (hname : StringFor text name) (hother : ∀ f : Field, text ≠ f.name.toList)
      (hafter : Blanks after) (h : Wellformed .element cs) :
      EntryText .other (before ++ (name ++ (after ++ ':' :: cs)))

/-! ## Documents -/

/-- The values of some fields in order, as a state has them. -/
def ValuesText (s : State) : List Field → List Char → Prop :=
  Separated fun f => Padded (FieldText f (s.field f))

/-- The two forms of a saved state, without blanks around them: the values of all fields in their
usual order, or members in any order that give each field once, by its value in the state. -/
inductive Form (s : State) : List Char → Prop
  | array {cs : List Char} (h : ValuesText s Field.all cs) : Form s ('[' :: cs ++ [']'])
  | object {entries : List Entry} {cs : List Char} (h : Separated EntryText entries cs)
      (honce : ∀ f, entries.filterMap (Entry.value? · f) = [s.field f]) :
      Form s ('{' :: cs ++ ['}'])

/-- A text that describes a state. -/
def Document (s : State) : List Char → Prop := Padded (Form s)

/-! ## Filling in a draft -/

/-- The draft with an entry taken in, unless the entry is about a field that has been filled in
before. -/
def take (d : Draft) : Entry → Option Draft
  | .field f value => if (d f).isSome then none else some (d.put f value)
  | .other => some d

/-- The draft with all entries taken in, one after the other. -/
def takeAll (d : Draft) : List Entry → Option Draft
  | [] => some d
  | e :: entries => (take d e).bind fun d' => takeAll d' entries

lemma toList_of_take {d d' : Draft} {e : Entry} (h : take d e = some d') (f : Field) :
    (d' f).toList = (d f).toList ++ (e.value? f).toList := by
  cases e with
  | other =>
      cases h
      simp [Entry.value?]
  | field g value =>
      rw [take] at h
      split_ifs at h with hsome
      cases h
      by_cases hgf : g = f
      · subst hgf
        rw [Bool.not_eq_true, Option.isSome_eq_false_iff, Option.isNone_iff_eq_none] at hsome
        simp [Entry.value?, hsome]
      · simp [Entry.value?, Draft.put_of_ne d value hgf, hgf]

lemma filterMap_value?_cons (e : Entry) (entries : List Entry) (f : Field) :
    (e :: entries).filterMap (Entry.value? · f) =
      (e.value? f).toList ++ entries.filterMap (Entry.value? · f) := by
  rw [List.filterMap_cons]
  rcases e.value? f with _ | value <;> rfl

/-- **Taking entries in one by one gives each field at most once.** -/
theorem takeAll_eq_some_iff {d d' : Draft} {entries : List Entry} :
    takeAll d entries = some d' ↔
      ∀ f, (d' f).toList = (d f).toList ++ entries.filterMap (Entry.value? · f) := by
  induction entries generalizing d with
  | nil =>
      simp only [takeAll, Option.some.injEq, List.filterMap_nil, List.append_nil]
      refine ⟨fun h f => by rw [h], fun h => funext fun f => ?_⟩
      exact Option.ext fun value => by rw [← Option.mem_toList, ← Option.mem_toList, h f]
  | cons e entries ih =>
      rw [takeAll, Option.bind_eq_some_iff]
      constructor
      · rintro ⟨mid, hmid, hrest⟩ f
        rw [ih.mp hrest f, toList_of_take hmid f, filterMap_value?_cons, List.append_assoc]
      · intro h
        -- A field that is filled in and comes again would be given twice.
        have hfree : ∃ mid, take d e = some mid := by
          cases e with
          | other => exact ⟨d, rfl⟩
          | field g value =>
              rcases hg : d g with _ | old
              · exact ⟨d.put g value, by simp [take, hg]⟩
              · have hg' := h g
                rw [filterMap_value?_cons, hg] at hg'
                rcases hd' : d' g with _ | new <;> simp [hd', Entry.value?] at hg'
        obtain ⟨mid, hmid⟩ := hfree
        refine ⟨mid, hmid, ih.mpr fun f => ?_⟩
        rw [h f, toList_of_take hmid f, filterMap_value?_cons, List.append_assoc]

/-- Entries make up a state exactly if each field is given once. -/
lemma exists_takeAll_iff {s : State} {entries : List Entry} :
    (∃ d, takeAll Draft.empty entries = some d ∧ d.state? = some s) ↔
      ∀ f, entries.filterMap (Entry.value? · f) = [s.field f] := by
  have hempty : ∀ f, (Draft.empty f).toList ++ entries.filterMap (Entry.value? · f) =
      entries.filterMap (Entry.value? · f) := fun f => List.nil_append _
  constructor
  · rintro ⟨d, hd, hs⟩ f
    rw [← hempty f, ← takeAll_eq_some_iff.mp hd f, (Draft.state?_eq_some_iff d s).mp hs f]
    rfl
  · intro h
    refine ⟨fun f => some (s.field f), takeAll_eq_some_iff.mpr fun f => ?_,
      (Draft.state?_eq_some_iff _ s).mpr fun f => rfl⟩
    rw [hempty f, h f]
    rfl

end SaveFile

end ChipVm
