import ChipVm.SaveFile.Writer
import ChipVm.State.Boot
import ChipVm.Proofs.SaveFile.Acceptance

/-!
# Saving and restoring

What is written for a state is a document of the state, whatever the state holds: bytes of any value
in the display, addresses of sixteen bits, and a stack of any length.  The reader therefore reads
the state back, and only then is it validated.

* **`document_write`** — what is written is a document of the state.
* **`State.restore_save`** — restoring what was saved is validating it.
* **`State.restore_save_answers`** — the same, with every answer spelled out.
-/

namespace ChipVm

namespace SaveFile

open Json

/-! ## The parts of a document -/

lemma separated_intercalate {α β : Type} {P : β → List Char → Prop} {f : α → β}
    {text : α → List Char} (h : ∀ a, P (f a) (text a)) (a : α) (as : List α) :
    Separated P ((a :: as).map f) (List.intercalate [','] ((a :: as).map text)) := by
  induction as generalizing a with
  | nil =>
      rw [List.map_singleton, List.map_singleton, List.intercalate_singleton]
      exact .last (h a)
  | cons b as ih =>
      simpa using Separated.more (h a) (ih b)

lemma padded_self {P : List Char → Prop} {cs : List Char} (h : P cs) : Padded P cs := by
  simpa using Padded.mk blanks_nil h blanks_nil

lemma numberArray_writeNats (ns : List Nat) : NumberArray ns (writeNats ns) := by
  cases ns with
  | nil => exact .empty blanks_nil
  | cons n ns =>
      have hitem : ∀ n, Padded (Numeral n) (writeNat n) := fun n => padded_self (numeral_toDigits n)
      have hitems := separated_intercalate (P := fun n => Padded (Numeral n)) (f := id) hitem n ns
      rw [List.map_id] at hitems
      exact .items hitems

lemma fieldText_writeField (f : Field) (value : f.Value) :
    FieldText f value (writeField f value) := by
  cases f with
  | memory | v | stack | display => exact numberArray_writeNats _
  | i | pc | delayTimer | soundTimer => exact numeral_toDigits _

/-- A text without control characters, quotes and backslashes stands for itself. -/
lemma stringFor_self {text : List Char}
    (h : ∀ c ∈ text, 0x20 ≤ c.toNat ∧ c ≠ '"' ∧ c ≠ '\\') :
    StringFor text ('"' :: text ++ ['"']) := by
  have hpieces : Pieces (text.map .char) text ∧ Spells (text.map .char) text := by
    induction text with
    | nil => exact ⟨.nil, .nil⟩
    | cons c text ih =>
        obtain ⟨⟨hcontrol, hquote, hbackslash⟩, htext⟩ := List.forall_mem_cons.mp h
        obtain ⟨hpieces, hspells⟩ := ih htext
        exact ⟨.cons (.plain hcontrol hquote hbackslash) hpieces, .char hspells⟩
  exact ⟨text.map .char, .mk hpieces.1, hpieces.2⟩

lemma stringFor_name (f : Field) : StringFor f.name.toList ('"' :: f.name.toList ++ ['"']) := by
  have hplain : f.name.toList.all
      (fun c => decide (0x20 ≤ c.toNat ∧ c ≠ '"' ∧ c ≠ '\\')) = true := by
    cases f <;> rfl
  exact stringFor_self fun c hc => of_decide_eq_true (List.all_eq_true.mp hplain c hc)

lemma entryText_writeMember (s : State) (f : Field) :
    EntryText (.field f (s.field f)) (writeMember s f) := by
  have hentry := EntryText.field blanks_nil (stringFor_name f) blanks_nil
    (padded_self (fieldText_writeField f (s.field f)))
  simpa [writeMember] using hentry

/-- **What is written for a state is a document of it.** -/
theorem document_write (s : State) : Document s (write s) := by
  have hmembers : Separated EntryText (Field.all.map fun f => .field f (s.field f))
      (List.intercalate [','] (Field.all.map (writeMember s))) :=
    separated_intercalate (entryText_writeMember s) _ _
  refine padded_self (.object hmembers fun f => ?_)
  cases f <;> rfl

end SaveFile

namespace State

open SaveFile

lemma document_save (s : State) : Document s s.save.toList := by
  rw [save, String.toList_ofList]
  exact document_write s

/-- **Restoring what was saved is validating it.** -/
theorem restore_save (s : State) : restore s.save = s.validate :=
  restore_of_document s.document_save

/-- A state that is refused is refused for its first defect. -/
lemma restore_save_of_firstDefect {s : State} {d : Defect} (h : s.FirstDefect d) :
    restore s.save = .error (.invalidState d) := by
  rw [restore_save]
  exact validate_eq_error_iff.mpr ⟨d, rfl, h⟩

/-- **A state comes back from its text exactly if it is valid,** and otherwise its first defect is
what is wrong with the text.  This is said with the defect in it: the place and the contents of the
first cell of the display that is neither dark nor lit, or else the program counter, or else the
outermost return address, if it is these that lie outside the address space.  The text is never
malformed, and no other state has the same one. -/
theorem restore_save_answers (s : State) :
    (s.Valid → restore s.save = .ok s) ∧
      (¬ s.Valid → ∃ d, s.FirstDefect d ∧ restore s.save = .error (.invalidState d)) ∧
      (∀ (index : Nat) (value : UInt8), s.FirstDefect (.pixel index value) →
        (restore s.save).mapError Fault.message = .error
          ("Invalid state: display cell " ++ toString index ++ " is " ++ toString value.toNat ++
            ", expected 0 or 1")) ∧
      (∀ pc : UInt16, s.FirstDefect (.counter pc) →
        (restore s.save).mapError Fault.message = .error
          ("Invalid state: pc 0x" ++ Word.numeral pc ++ " is outside the address space")) ∧
      (∀ address : UInt16, s.FirstDefect (.returnAddress address) →
        (restore s.save).mapError Fault.message = .error
          ("Invalid state: return address 0x" ++ Word.numeral address ++
            " is outside the address space")) ∧
      restore s.save ≠ .error .malformedSave ∧
      ∀ t : State, t.save = s.save → t = s := by
  have htext {d : Defect} (h : s.FirstDefect d) :
      (restore s.save).mapError Fault.message = .error (Fault.invalidState d).message := by
    rw [restore_save_of_firstDefect h]
    rfl
  refine ⟨fun hvalid => ?_, fun hinvalid => ?_, fun index value h => ?_, fun pc h => ?_,
    fun address h => ?_, fun hmalformed => ?_, fun t ht => ?_⟩
  · rw [restore_save]
    exact validate_eq_ok_iff.mpr ⟨rfl, hvalid⟩
  · obtain ⟨d, hd⟩ := exists_firstDefect_iff.mpr hinvalid
    exact ⟨d, hd, restore_save_of_firstDefect hd⟩
  · rw [htext h, Fault.message_pixel]
  · rw [htext h, Fault.message_counter]
  · rw [htext h, Fault.message_returnAddress]
  · rw [restore_save] at hmalformed
    obtain ⟨d, hd, _⟩ := validate_eq_error_iff.mp hmalformed
    cases hd
  · have hs := read_eq_some_iff.mpr s.document_save
    have ht' := read_eq_some_iff.mpr t.document_save
    rw [ht, hs] at ht'
    exact (Option.some.inj ht').symm

/-- A state that has several defects: two calls came from outside the address space, the outermost
of them from `0xBEEF`.  What is said about it is the value of the last cell of the display, and
without that cell the outermost return address. -/
theorem restore_save_answers_defective :
    let s := { blank with stack := [0x0ABC, 0xF00D, 0xBEEF, 0x0200] }
    let t := { s with display := Display.dark.paint (Screen.cellAt 63 31) 9 }
    (restore t.save).mapError Fault.message =
        .error "Invalid state: display cell 2047 is 9, expected 0 or 1" ∧
      (restore s.save).mapError Fault.message =
        .error "Invalid state: return address 0xBEEF is outside the address space" := by
  intro s t
  have hdark : ∀ k, s.display.pixel k ≤ 1 := fun k => by
    rw [show s.display = Display.dark from rfl, Display.pixel_dark]
    decide
  have hcell : t.display.pixel (Screen.cellAt 63 31) = 9 := by
    rw [Display.pixel_paint, if_pos rfl]
  have hbefore : ∀ j < Screen.cellAt 63 31, t.display.pixel j ≤ 1 := fun j hj => by
    rw [Display.pixel_paint, if_neg (Fin.ne_of_gt hj), Display.pixel_dark]
    decide
  have hpixel := FirstDefect.pixel hbefore (by rw [hcell]; decide)
  rw [hcell] at hpixel
  have hreturn : s.FirstDefect (.returnAddress 0xBEEF) :=
    .returnAddress hdark (by decide)
      (show s.stack = [0x0ABC, 0xF00D] ++ 0xBEEF :: [0x0200] from rfl)
      (List.forall_mem_singleton.mpr (by decide)) (by decide)
  exact ⟨(restore_save_answers t).2.2.1 2047 9 hpixel,
    (restore_save_answers s).2.2.2.2.1 0xBEEF hreturn⟩

end State

end ChipVm
