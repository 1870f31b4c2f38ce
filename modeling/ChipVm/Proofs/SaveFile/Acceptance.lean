import ChipVm.SaveFile.Reader
import ChipVm.Proofs.Json.Skipping
import ChipVm.Proofs.SaveFile.Fields
import ChipVm.Proofs.State.Defects

/-!
# What is accepted as a saved state

The reader accepts the documents of the grammar and nothing else, and it reads from a document the
state that the document describes.  Members and values are followed from the first one to the last
one: `readMembers_append` and `readValues_append` say that texts of the grammar are read,
`of_readMembers` and `of_readValues` that what was read is such a text.  An object is read into a
draft entry by entry, so `takeAll` is the bridge to the grammar; in an array each value goes to the
field at its place, and no later value overwrites it.

* **`read_eq_some_iff`** — a text is read as a state exactly if it is a document of that state.
* **`State.restore_answers`** — which texts are accepted, and why the others are refused.
-/

namespace ChipVm

namespace SaveFile

open Json

/-! ## One member -/

lemma ofName?_eq_none_iff {name : List Char} :
    Field.ofName? name = none ↔ ∀ f : Field, name ≠ f.name.toList := by
  rw [Field.ofName?, List.find?_eq_none]
  refine ⟨fun h f hf => ?_, fun h f _ => ?_⟩
  · exact h f (Field.mem_all f) (decide_eq_true hf.symm)
  · simpa [eq_comm] using h f

lemma eq_name_of_ofName? {name : List Char} {f : Field} (h : Field.ofName? name = some f) :
    name = f.name.toList := by
  rw [Field.ofName?] at h
  have hname := List.find?_some h
  exact (of_decide_eq_true hname).symm

/-- A member is read up to the blanks after it, which may be left or not. -/
lemma readMember_append {d d' : Draft} {e : Entry} {cs rest : List Char} (h : EntryText e cs)
    (hd : take d e = some d') (hrest : Delimited rest) :
    ∃ mid, readMember d (cs ++ rest) = some (d', mid) ∧ skipBlanks mid = skipBlanks rest := by
  cases h with
  | field hbefore hname hafter hvalue =>
      obtain ⟨hleft, htext, hright⟩ := hvalue
      rw [take] at hd
      split_ifs at hd with hfree
      cases hd
      refine ⟨_, ?_, skipBlanks_blanks_append hright rest⟩
      rw [readMember]
      simp only [List.append_assoc, List.cons_append, readString_append hbefore hname,
        expect_append (c := ':') hafter rfl, Field.ofName?_name, hfree,
        readField_append hleft htext (hrest.append hright)]
      rfl
  | other hbefore hname hother hafter hvalue =>
      cases hvalue with
      | element hleft htext hright =>
          cases hd
          refine ⟨_, ?_, skipBlanks_blanks_append hright rest⟩
          rw [readMember]
          simp only [List.append_assoc, List.cons_append, readString_append hbefore hname,
            expect_append (c := ':') hafter rfl,
            ofName?_eq_none_iff.mpr hother, skipValue_append hleft htext (hrest.append hright),
            Option.map_some]

/-- What is read as a member is one, also with more blanks after it. -/
lemma of_readMember {d d' : Draft} {cs rest : List Char} (h : readMember d cs = some (d', rest)) :
    ∃ e text, (∀ after, Blanks after → EntryText e (text ++ after)) ∧ take d e = some d' ∧
      cs = text ++ rest := by
  rw [readMember] at h
  split at h
  · cases h
  · rename_i name afterName hname
    obtain ⟨before, quoted, hbefore, hquoted, rfl⟩ := of_readString hname
    split at h
    · cases h
    · rename_i body hbody
      obtain ⟨colon, hcolon, rfl⟩ := of_expect hbody
      split at h
      · rename_i hother
        obtain ⟨tail, htail, heq⟩ := Option.map_eq_some_iff.mp h
        cases heq
        obtain ⟨b, v, hb, hv, rfl⟩ := of_skipValue htail
        refine ⟨.other, before ++ (quoted ++ (colon ++ ':' :: (b ++ v))), ?_, rfl, by simp⟩
        intro after hafter
        simpa using EntryText.other hbefore hquoted (ofName?_eq_none_iff.mp hother) hcolon
          (.element hb hv hafter)
      · rename_i f hf
        obtain rfl := eq_name_of_ofName? hf
        split_ifs at h with hfree
        obtain ⟨⟨value, tail⟩, hvalue, heq⟩ := Option.map_eq_some_iff.mp h
        cases heq
        obtain ⟨b, v, hb, hv, rfl⟩ := of_readField hvalue
        refine ⟨.field f value, before ++ (quoted ++ (colon ++ ':' :: (b ++ v))), ?_,
          if_neg hfree, by simp⟩
        intro after hafter
        simpa using EntryText.field hbefore hquoted hcolon (.mk hb hv hafter)

/-! ## All members -/

lemma readMembers_of_readMember {d d' : Draft} {cs rest : List Char}
    (h : readMember d cs = some (d', rest)) :
    readMembers d cs =
      match skipBlanks rest with
      | ',' :: tail => readMembers d' tail
      | '}' :: tail => some (d', tail)
      | _ => none := by
  rw [readMembers]
  split
  · rename_i e mid hmid
    obtain ⟨rfl, rfl⟩ := Prod.mk.inj (Option.some.inj (hmid.symm.trans h))
    split <;> rename_i heq <;> simp_all
  · rename_i hnone
    exact absurd (hnone.symm.trans h) (by simp)

lemma readMembers_append {entries : List Entry} {cs : List Char}
    (h : Separated EntryText entries cs) {d d' : Draft} (hd : takeAll d entries = some d')
    (rest : List Char) : readMembers d (cs ++ '}' :: rest) = some (d', rest) := by
  induction h generalizing d with
  | last h =>
      obtain ⟨d₁, hfirst, hd⟩ := Option.bind_eq_some_iff.mp hd
      cases hd
      obtain ⟨mid, hmid, hskip⟩ := readMember_append h hfirst (delimited_brace rest)
      rw [readMembers_of_readMember hmid, hskip, (solid_cons rfl rest).skipBlanks_eq]
      rfl
  | more h _ ih =>
      obtain ⟨d₁, hfirst, hd⟩ := Option.bind_eq_some_iff.mp hd
      obtain ⟨mid, hmid, hskip⟩ := readMember_append h hfirst (delimited_comma _)
      rw [List.append_assoc, List.cons_append, readMembers_of_readMember hmid, hskip,
        (solid_cons rfl _).skipBlanks_eq]
      exact ih hd

lemma of_readMembers {d d' : Draft} {cs rest : List Char}
    (h : readMembers d cs = some (d', rest)) :
    ∃ entries text, Separated EntryText entries text ∧ takeAll d entries = some d' ∧
      cs = text ++ '}' :: rest := by
  fun_induction readMembers d cs with
  | case1 d cs d₁ mid hmember tail htail ih =>
      obtain ⟨e, text, htext, hfirst, rfl⟩ := of_readMember hmember
      obtain ⟨after, hafter, rfl⟩ := of_skipBlanks_eq_cons htail
      obtain ⟨entries, texts, htexts, hd, rfl⟩ := ih h
      refine ⟨e :: entries, _, .more (htext after hafter) htexts, ?_, by simp⟩
      rw [takeAll, hfirst, Option.bind_some, hd]
  | case2 d cs d₁ mid hmember tail htail =>
      cases h
      obtain ⟨e, text, htext, hfirst, rfl⟩ := of_readMember hmember
      obtain ⟨after, hafter, rfl⟩ := of_skipBlanks_eq_cons htail
      refine ⟨[e], _, .last (htext after hafter), ?_, by simp⟩
      rw [takeAll, hfirst]
      rfl
  | case3 => cases h
  | case4 => cases h

/-! ## Values in order -/

variable {s : State} {f : Field} {fields : List Field}

/-- The draft with the values of some fields filled in, as the state has them. -/
def fill (s : State) (d : Draft) : List Field → Draft :=
  List.foldl (fun d f => d.put f (s.field f)) d

lemma fill_of_mem (h : f ∈ fields) (d : Draft) : fill s d fields f = some (s.field f) := by
  have hkeep : ∀ (fields : List Field) (d : Draft), d f = some (s.field f) →
      fill s d fields f = some (s.field f) := by
    intro fields
    induction fields with
    | nil => exact fun _ hd => hd
    | cons g fields ih =>
        intro d hd
        refine ih (d.put g (s.field g)) ?_
        by_cases hgf : g = f
        · subst hgf
          exact Draft.put_self d g _
        · rw [Draft.put_of_ne d _ hgf, hd]
  induction fields generalizing d with
  | nil => exact absurd h List.not_mem_nil
  | cons g fields ih =>
      rcases List.mem_cons.mp h with rfl | h
      · exact hkeep fields _ (Draft.put_self d f _)
      · exact ih h (d.put g (s.field g))

lemma readValues_append {cs : List Char} (h : ValuesText s fields cs) {opening : Char}
    (hopening : isBlank opening = false) (d : Draft) {b : List Char} (hb : Blanks b)
    (rest : List Char) :
    readValues opening d fields (b ++ opening :: (cs ++ ']' :: rest)) =
      some (fill s d fields, rest) := by
  induction h generalizing opening d b with
  | last h =>
      obtain ⟨hleft, htext, hright⟩ := h
      rw [readValues, expect_append hb hopening]
      simp only [List.append_assoc, readField_append hleft htext
        ((delimited_bracket rest).append hright), readValues,
        expect_append (c := ']') hright rfl]
      rfl
  | more h _ ih =>
      obtain ⟨hleft, htext, hright⟩ := h
      rw [readValues, expect_append hb hopening]
      simp only [List.append_assoc, List.cons_append, readField_append hleft htext
        ((delimited_comma _).append hright), ih (show isBlank ',' = false from rfl) _ hright]
      rfl

/-- A field that does not come again keeps what it has. -/
lemma of_readValues_of_notMem {opening : Char} {d d' : Draft} {cs rest : List Char}
    (h : readValues opening d fields cs = some (d', rest)) (hf : f ∉ fields) : d' f = d f := by
  induction fields generalizing opening d cs with
  | nil =>
      obtain ⟨tail, _, heq⟩ := Option.map_eq_some_iff.mp h
      cases heq
      rfl
  | cons g fields ih =>
      rw [List.mem_cons, not_or] at hf
      rw [readValues] at h
      split at h
      · cases h
      · split at h
        · cases h
        · rw [ih h hf.2, Draft.put_of_ne _ _ (Ne.symm hf.1)]

/-- The first value, and the reading of the others. -/
lemma of_readValues_cons {opening : Char} {d d' : Draft} {cs rest : List Char}
    (h : readValues opening d (f :: fields) cs = some (d', rest)) (hf : f ∉ fields)
    (hd' : d' f = some (s.field f)) :
    ∃ b left text mid, Blanks b ∧ Blanks left ∧ FieldText f (s.field f) text ∧
      cs = b ++ opening :: (left ++ (text ++ mid)) ∧
      readValues ',' (d.put f (s.field f)) fields mid = some (d', rest) := by
  rw [readValues] at h
  split at h
  · cases h
  · rename_i body hbody
    obtain ⟨b, hb, rfl⟩ := of_expect hbody
    split at h
    · cases h
    · rename_i value mid hvalue
      obtain ⟨left, text, hleft, htext, rfl⟩ := of_readField hvalue
      have hkept := of_readValues_of_notMem h hf
      rw [hd', Draft.put_self] at hkept
      obtain rfl := Option.some.inj hkept
      exact ⟨b, left, text, mid, hb, hleft, htext, rfl, h⟩

lemma of_readValues {opening : Char} {d d' : Draft} {cs rest : List Char}
    (h : readValues opening d (f :: fields) cs = some (d', rest)) (hnodup : (f :: fields).Nodup)
    (hd' : ∀ g, d' g = some (s.field g)) :
    ∃ b text, Blanks b ∧ ValuesText s (f :: fields) text ∧
      cs = b ++ opening :: (text ++ ']' :: rest) := by
  induction fields generalizing f opening d cs with
  | nil =>
      obtain ⟨b, left, text, mid, hb, hleft, htext, rfl, hmid⟩ :=
        of_readValues_cons h List.not_mem_nil (hd' f)
      obtain ⟨tail, htail, heq⟩ := Option.map_eq_some_iff.mp hmid
      cases heq
      obtain ⟨right, hright, rfl⟩ := of_expect htail
      exact ⟨b, _, hb, .last (.mk hleft htext hright), by simp⟩
  | cons g fields ih =>
      obtain ⟨hf, hnodup⟩ := List.nodup_cons.mp hnodup
      obtain ⟨b, left, text, mid, hb, hleft, htext, rfl, hmid⟩ := of_readValues_cons h hf (hd' f)
      obtain ⟨right, texts, hright, htexts, rfl⟩ := ih hmid hnodup
      exact ⟨b, _, hb, .more (.mk hleft htext hright) htexts, by simp⟩

/-! ## The whole text -/

lemma read_of_document {cs : List Char} (h : Document s cs) : read cs = some s := by
  obtain ⟨hbefore, hform, hafter⟩ := h
  have hblank := (skipBlanks_eq_nil_iff _).mpr hafter
  cases hform with
  | array h =>
      rw [List.append_assoc, List.cons_append, List.cons_append, List.append_assoc,
        List.singleton_append, read, readDraft,
        ((avoids_cons rfl (by decide) _).blanks_append hbefore).expect_eq_none]
      have hbracket : isBlank '[' = false := rfl
      simp only [readValues_append h hbracket Draft.empty hbefore, hblank, if_true]
      exact (Draft.state?_eq_some_iff _ s).mpr fun f => fill_of_mem (Field.mem_all f) Draft.empty
  | object h honce =>
      obtain ⟨d, hd, hs⟩ := exists_takeAll_iff.mpr honce
      rw [List.append_assoc, List.cons_append, List.cons_append, List.append_assoc,
        List.singleton_append, read, readDraft, expect_append hbefore rfl]
      simp only [readMembers_append h hd, hblank, if_true, hs]

lemma document_of_read {cs : List Char} (h : read cs = some s) : Document s cs := by
  rw [read] at h
  split at h
  · rename_i d rest hdraft
    split_ifs at h with hafter
    rw [skipBlanks_eq_nil_iff] at hafter
    rw [readDraft] at hdraft
    split at hdraft
    · rename_i body hbody
      obtain ⟨b, hb, rfl⟩ := of_expect hbody
      obtain ⟨entries, text, htext, hd, rfl⟩ := of_readMembers hdraft
      have hform := Form.object htext (exists_takeAll_iff.mp ⟨d, hd, h⟩)
      simpa [Document] using Padded.mk hb hform hafter
    · obtain ⟨b, text, hb, htext, rfl⟩ :=
        of_readValues hdraft (by decide) ((Draft.state?_eq_some_iff d s).mp h)
      simpa [Document] using Padded.mk hb (Form.array htext) hafter
  · cases h

/-- **Exactly the documents of a state are read as this state.** -/
theorem read_eq_some_iff {cs : List Char} : read cs = some s ↔ Document s cs :=
  ⟨document_of_read, read_of_document⟩

end SaveFile

namespace State

open SaveFile

variable {s : State} {text : String}

lemma restore_of_document (h : Document s text.toList) : restore text = s.validate := by
  rw [restore, read_eq_some_iff.mpr h]

lemma restore_of_no_document (h : ∀ s, ¬ Document s text.toList) :
    restore text = .error .malformedSave := by
  have hnone : SaveFile.read text.toList = none :=
    Option.eq_none_iff_forall_ne_some.mpr fun s hs => h s (read_eq_some_iff.mp hs)
  rw [restore, hnone]

/-- **Every text is answered by what it is a document of.**  A document of a valid state is accepted
as this state and as no other one, a document of an invalid state is refused for the first defect of
the state, and any other text is refused as malformed. -/
theorem restore_answers (text : String) :
    (∀ s, restore text = .ok s ↔ s.Valid ∧ Document s text.toList) ∧
      (∀ s, Document s text.toList → ¬ s.Valid →
        ∃ d, s.FirstDefect d ∧ restore text = .error (.invalidState d)) ∧
      (restore text = .error .malformedSave ↔ ∀ s, ¬ Document s text.toList) := by
  refine ⟨fun s => ⟨fun h => ?_, ?_⟩, fun s hs hinvalid => ?_, fun h s hs => ?_,
    restore_of_no_document⟩
  · by_cases hdocument : ∃ t, Document t text.toList
    · obtain ⟨t, ht⟩ := hdocument
      rw [restore_of_document ht] at h
      obtain ⟨rfl, hvalid⟩ := validate_eq_ok_iff.mp h
      exact ⟨hvalid, ht⟩
    · rw [restore_of_no_document (not_exists.mp hdocument)] at h
      cases h
  · rintro ⟨hvalid, hs⟩
    rw [restore_of_document hs]
    exact validate_eq_ok_iff.mpr ⟨rfl, hvalid⟩
  · obtain ⟨d, hd⟩ := exists_firstDefect_iff.mpr hinvalid
    rw [restore_of_document hs]
    exact ⟨d, hd, validate_eq_error_iff.mpr ⟨d, rfl, hd⟩⟩
  · rw [restore_of_document hs] at h
    obtain ⟨d, hd, _⟩ := validate_eq_error_iff.mp h
    cases hd

end State

end ChipVm
