import ChipVm.Json.Skip
import ChipVm.Proofs.Json.Reading

/-!
# Skipping a JSON value

Skipping goes from left to right with a list of the brackets that are still open, while the grammar
nests values in values.  The two meet in what is asked of the text after a value: with nothing open
it is the rest of the text, and each open bracket asks first for the rest of its own items and its
closing bracket.

* `Closes`, `ClosesAll` — what one open bracket, and what all of them, ask of the text.
* **`skipValue_append`** — a value of the grammar is skipped, and nothing after it.
* **`of_skipValue`** — what is skipped is a value of the grammar.
-/

namespace ChipVm

namespace Json

/-! ## One step at a time -/

lemma skipFrom_value (opened : List Bracket) (cs : List Char) :
    skipFrom .value opened cs =
      (enterValue opened cs).bind fun next => skipFrom next.1 next.2.1 next.2.2 := by
  rw [skipFrom]
  split <;> rename_i h <;> rw [h] <;> rfl

lemma skipFrom_after_cons (bracket : Bracket) (outer : List Bracket) (cs : List Char) :
    skipFrom .after (bracket :: outer) cs =
      (leaveValue bracket outer cs).bind fun next => skipFrom next.1 next.2.1 next.2.2 := by
  rw [skipFrom]
  split <;> rename_i h <;> rw [h] <;> rfl

lemma skipFrom_after_nil (cs : List Char) : skipFrom .after [] cs = some cs := by
  rw [skipFrom]

lemma leaveValue_object_comma (outer : List Bracket) (rest : List Char) :
    leaveValue .object outer (',' :: rest) =
      (skipName rest).map fun tail => (.value, .object :: outer, tail) := rfl

/-- Blanks after a value do not matter as long as something is open. -/
lemma skipFrom_after_blanks {b : List Char} (hb : Blanks b) (bracket : Bracket)
    (outer : List Bracket) (rest : List Char) :
    skipFrom .after (bracket :: outer) (b ++ rest) = skipFrom .after (bracket :: outer) rest := by
  rw [skipFrom_after_cons, skipFrom_after_cons, leaveValue.eq_def, leaveValue.eq_def,
    skipBlanks_blanks_append hb]

/-! ## Values without parts -/

lemma Number.head {cs : List Char} (h : Number cs) :
    ∃ c tail, cs = c :: tail ∧ (c = '-' ∨ c.isDigit = true) := by
  obtain ⟨hsign, hwhole, _, _⟩ := h
  rcases hsign with rfl | rfl
  · obtain ⟨hne, hdigits⟩ := hwhole.digits
    obtain ⟨c, tail, rfl⟩ := List.exists_cons_of_ne_nil hne
    exact ⟨c, _, rfl, Or.inr (hdigits c List.mem_cons_self)⟩
  · exact ⟨'-', _, rfl, Or.inl rfl⟩

lemma skipScalar_of_isDigit {c : Char} (hc : c.isDigit = true) (tail : List Char) :
    skipScalar (c :: tail) = skipUnsigned (c :: tail) := by
  rw [skipScalar]
  all_goals
    rintro _ heq
    cases heq
    exact absurd hc (by decide)

lemma skipScalar_number {cs rest : List Char} (h : Number cs) (hrest : Delimited rest) :
    skipScalar (cs ++ rest) = some rest := by
  obtain ⟨hsign, hwhole, hfrac, hexp⟩ := h
  have hskip := skipUnsigned_append hwhole hfrac hexp hrest
  rcases hsign with rfl | rfl
  · rw [List.nil_append, List.append_assoc, List.append_assoc]
    obtain ⟨hne, hdigits⟩ := hwhole.digits
    obtain ⟨c, tail, rfl⟩ := List.exists_cons_of_ne_nil hne
    rw [List.cons_append, skipScalar_of_isDigit (hdigits c List.mem_cons_self)]
    exact hskip
  · rw [List.append_assoc, List.append_assoc, List.append_assoc]
    exact hskip

lemma of_skipScalar {cs rest : List Char} (h : skipScalar cs = some rest) :
    ∃ v, Wellformed .value v ∧ cs = v ++ rest := by
  rw [skipScalar.eq_def] at h
  split at h
  · rename_i tail
    obtain ⟨ps, b, quoted, hb, hquotes, hcs⟩ := of_skipString h
    cases b with
    | nil => exact ⟨quoted, .string hquotes, hcs⟩
    | cons c b =>
        cases hcs
        exact absurd (hb '"' List.mem_cons_self) (by decide)
  · cases h
    exact ⟨_, .trueLiteral, rfl⟩
  · cases h
    exact ⟨_, .falseLiteral, rfl⟩
  · cases h
    exact ⟨_, .nullLiteral, rfl⟩
  · obtain ⟨number, hnumber, hcs⟩ := of_skipUnsigned (Or.inr rfl) h
    exact ⟨number, .number hnumber, hcs⟩
  · obtain ⟨number, hnumber, hcs⟩ := of_skipUnsigned (Or.inl rfl) h
    exact ⟨number, .number hnumber, hcs⟩

/-! ## What the grammar allows is skipped -/

lemma Wellformed.solid_avoids {cs : List Char} (h : Wellformed .value cs) :
    Solid cs ∧ Avoids ']' cs := by
  have hboth : ∀ {c : Char} {tail : List Char}, isBlank c = false → c ≠ ']' →
      Solid (c :: tail) ∧ Avoids ']' (c :: tail) :=
    fun hc hne => ⟨solid_cons hc _, avoids_cons hc hne _⟩
  cases h with
  | nullLiteral | trueLiteral | falseLiteral => exact hboth rfl (by decide)
  | number h =>
      obtain ⟨c, tail, rfl, hc⟩ := h.head
      rcases hc with rfl | hc
      · exact hboth rfl (by decide)
      · refine hboth (isBlank_eq_false_of_isDigit hc) ?_
        rintro rfl
        exact absurd hc (by decide)
  | string h =>
      obtain ⟨_⟩ := h
      exact hboth rfl (by decide)
  | emptyArray | array | emptyObject | object => exact hboth rfl (by decide)

/-- Elements do not begin with the bracket that closes an array. -/
lemma Wellformed.elements_avoid {cs : List Char} (h : Wellformed .elements cs) :
    Avoids ']' cs := by
  have helement : ∀ {ds : List Char}, Wellformed .element ds → Avoids ']' ds := by
    intro ds hds
    cases hds with
    | element hbefore hvalue hafter =>
        rw [List.append_assoc]
        exact (hvalue.solid_avoids.2.append _).blanks_append hbefore
  cases h with
  | lastElement h => exact helement h
  | moreElements h _ => exact (helement h).append _

/-- Members do not begin with the brace that closes an object. -/
lemma Wellformed.members_avoid {cs : List Char} (h : Wellformed .members cs) :
    Avoids '}' cs := by
  have hmember : ∀ {ds : List Char}, Wellformed .member ds → Avoids '}' ds := by
    intro ds hds
    cases hds with
    | member hbefore hname hafter _ =>
        obtain ⟨_⟩ := hname
        rw [List.append_assoc, List.append_assoc]
        exact (avoids_cons rfl (by decide) _).blanks_append hbefore
  cases h with
  | lastMember h => exact hmember h
  | moreMembers h _ => exact (hmember h).append _

lemma enterValue_of_skipScalar {b text rest : List Char} (hb : Blanks b) (opened : List Bracket)
    (hsolid : Solid text) (harray : ∀ tail, text ≠ '[' :: tail)
    (hobject : ∀ tail, text ≠ '{' :: tail) (h : skipScalar text = some rest) :
    enterValue opened (b ++ text) = some (.after, opened, rest) := by
  rw [enterValue.eq_def, skipBlanks_append hb hsolid]
  split
  · exact absurd rfl (harray _)
  · exact absurd rfl (hobject _)
  · rw [h]
    rfl

lemma enterValue_array {b cs : List Char} (hb : Blanks b) (opened : List Bracket)
    (h : Avoids ']' cs) :
    enterValue opened (b ++ '[' :: cs) = some (.value, .array :: opened, cs) := by
  rw [enterValue.eq_def, skipBlanks_append hb (solid_cons rfl _)]
  simp only [h.expect_eq_none]

lemma enterValue_object {b cs : List Char} (hb : Blanks b) (opened : List Bracket)
    (h : Avoids '}' cs) :
    enterValue opened (b ++ '{' :: cs) =
      (skipName cs).map fun tail => (.value, .object :: opened, tail) := by
  rw [enterValue.eq_def, skipBlanks_append hb (solid_cons rfl _)]
  simp only [h.expect_eq_none]

/-- What skipping does with each part of a value. -/
def Skips : Part → List Char → Prop
  | .value, cs => ∀ b opened rest, Blanks b → Delimited rest →
      skipFrom .value opened (b ++ (cs ++ rest)) = skipFrom .after opened rest
  | .element, cs => ∀ bracket outer rest, Delimited rest →
      skipFrom .value (bracket :: outer) (cs ++ rest) = skipFrom .after (bracket :: outer) rest
  | .elements, cs => ∀ outer rest,
      skipFrom .value (.array :: outer) (cs ++ ']' :: rest) = skipFrom .after outer rest
  | .member, cs => ∀ outer rest, Delimited rest →
      (skipName (cs ++ rest)).bind (skipFrom .value (.object :: outer)) =
        skipFrom .after (.object :: outer) rest
  | .members, cs => ∀ outer rest,
      (skipName (cs ++ '}' :: rest)).bind (skipFrom .value (.object :: outer)) =
        skipFrom .after outer rest

/-- Skipping keeps to the grammar. -/
lemma Wellformed.skips {part : Part} {cs : List Char} (h : Wellformed part cs) : Skips part cs := by
  -- A value without parts is one step from before it to after it.
  have hscalar : ∀ {cs : List Char}, Wellformed .value cs →
      (∀ tail, cs ≠ '[' :: tail) → (∀ tail, cs ≠ '{' :: tail) →
      (∀ rest, Delimited rest → skipScalar (cs ++ rest) = some rest) → Skips .value cs := by
    intro cs hvalue harray hobject hskip b opened rest hb hrest
    obtain ⟨hsolid, _⟩ := hvalue.solid_avoids
    have hsolid' := hsolid.append rest
    obtain ⟨c, tail, rfl, _⟩ := hsolid
    rw [skipFrom_value, enterValue_of_skipScalar hb opened hsolid' ?_ ?_ (hskip rest hrest)]
    · rfl
    · rintro tail' heq
      cases heq
      exact harray _ rfl
    · rintro tail' heq
      cases heq
      exact hobject _ rfl
  induction h with
  | nullLiteral => exact hscalar .nullLiteral (by simp) (by simp) fun _ _ => rfl
  | trueLiteral => exact hscalar .trueLiteral (by simp) (by simp) fun _ _ => rfl
  | falseLiteral => exact hscalar .falseLiteral (by simp) (by simp) fun _ _ => rfl
  | number h =>
      obtain ⟨c, tail, rfl, hc⟩ := h.head
      refine hscalar (.number h) ?_ ?_ fun rest hrest => skipScalar_number h hrest
      · rintro _ heq
        cases heq
        exact absurd hc (by decide)
      · rintro _ heq
        cases heq
        exact absurd hc (by decide)
  | string h =>
      refine hscalar (.string h) ?_ ?_ fun rest _ => ?_
      · obtain ⟨_⟩ := h
        simp
      · obtain ⟨_⟩ := h
        simp
      · have hskip := skipString_append blanks_nil h rest
        obtain ⟨_⟩ := h
        exact hskip
  | emptyArray hblanks =>
      intro b opened rest hb hrest
      rw [skipFrom_value, enterValue.eq_def, List.cons_append, List.cons_append, List.append_assoc,
        skipBlanks_append hb (solid_cons rfl _)]
      simp only [List.singleton_append, expect_append (c := ']') hblanks rfl]
      rfl
  | array h ih =>
      intro b opened rest hb hrest
      rw [skipFrom_value, List.cons_append, List.cons_append, List.append_assoc,
        List.singleton_append, enterValue_array hb opened (h.elements_avoid.append _)]
      exact ih opened rest
  | emptyObject hblanks =>
      intro b opened rest hb hrest
      rw [skipFrom_value, enterValue.eq_def, List.cons_append, List.cons_append, List.append_assoc,
        skipBlanks_append hb (solid_cons rfl _)]
      simp only [List.singleton_append, expect_append (c := '}') hblanks rfl]
      rfl
  | object h ih =>
      intro b opened rest hb hrest
      rw [skipFrom_value, List.cons_append, List.cons_append, List.append_assoc,
        List.singleton_append, enterValue_object hb opened (h.members_avoid.append _),
        Option.bind_map]
      exact ih opened rest
  | element hbefore _ hafter ih =>
      intro bracket outer rest hrest
      rw [List.append_assoc, List.append_assoc, ih _ _ _ hbefore (hrest.append hafter),
        skipFrom_after_blanks hafter]
  | lastElement _ ih =>
      intro outer rest
      rw [ih .array outer _ (delimited_bracket rest), skipFrom_after_cons]
      rfl
  | moreElements _ _ ih ih' =>
      intro outer rest
      rw [List.append_assoc, List.cons_append, ih .array outer _ (delimited_comma _),
        skipFrom_after_cons]
      exact ih' outer rest
  | member hbefore hname hafter _ ih =>
      intro outer rest hrest
      rw [List.append_assoc, List.append_assoc, List.append_assoc, skipName,
        skipString_append hbefore hname, Option.bind_some, List.cons_append,
        expect_append hafter rfl, Option.bind_some]
      exact ih .object outer rest hrest
  | lastMember _ ih =>
      intro outer rest
      rw [ih outer _ (delimited_brace rest), skipFrom_after_cons]
      rfl
  | moreMembers _ _ ih ih' =>
      intro outer rest
      rw [List.append_assoc, List.cons_append, ih outer _ (delimited_comma _),
        skipFrom_after_cons, ← ih' outer rest, leaveValue_object_comma, Option.bind_map]
      rfl

/-- **A value of the grammar is skipped,** and nothing after it. -/
theorem skipValue_append {b cs rest : List Char} (hb : Blanks b) (h : Wellformed .value cs)
    (hrest : Delimited rest) : skipValue (b ++ (cs ++ rest)) = some rest := by
  rw [skipValue, h.skips b [] rest hb hrest, skipFrom_after_nil]

/-! ## What is skipped is in the grammar -/

/-- What may come after a value inside a bracket, up to the bracket that closes it. -/
inductive Closes : Bracket → List Char → Prop
  | array {b : List Char} (hb : Blanks b) : Closes .array (b ++ [']'])
  | moreElements {b es : List Char} (hb : Blanks b) (h : Wellformed .elements es) :
      Closes .array (b ++ ',' :: es ++ [']'])
  | object {b : List Char} (hb : Blanks b) : Closes .object (b ++ ['}'])
  | moreMembers {b ms : List Char} (hb : Blanks b) (h : Wellformed .members ms) :
      Closes .object (b ++ ',' :: ms ++ ['}'])

/-- What the brackets that are open ask of a text before `rest` is left of it. -/
def ClosesAll : List Bracket → List Char → List Char → Prop
  | [], cs, rest => cs = rest
  | bracket :: outer, cs, rest =>
      ∃ closing tail, Closes bracket closing ∧ cs = closing ++ tail ∧ ClosesAll outer tail rest

/-- What is asked of a text before a value or after one. -/
def Finishes : Place → List Bracket → List Char → List Char → Prop
  | .after, opened, cs, rest => ClosesAll opened cs rest
  | .value, opened, cs, rest =>
      ∃ b v tail, Blanks b ∧ Wellformed .value v ∧ cs = b ++ (v ++ tail) ∧
        ClosesAll opened tail rest

/-- Before a value in an array, elements and the closing bracket are asked for. -/
lemma elements_of_finishes {outer : List Bracket} {cs rest : List Char}
    (h : Finishes .value (.array :: outer) cs rest) :
    ∃ es tail, Wellformed .elements es ∧ cs = es ++ ']' :: tail ∧ ClosesAll outer tail rest := by
  obtain ⟨b, v, _, hb, hv, rfl, _, tail, hclosing, rfl, hall⟩ := h
  cases hclosing with
  | array hafter =>
      refine ⟨_, tail, .lastElement (.element hb hv hafter), ?_, hall⟩
      simp only [List.append_assoc, List.cons_append, List.nil_append]
  | moreElements hafter hes =>
      refine ⟨_, tail, .moreElements (.element hb hv hafter) hes, ?_, hall⟩
      simp only [List.append_assoc, List.cons_append, List.nil_append]

lemma of_skipName {cs rest : List Char} (h : skipName cs = some rest) :
    ∃ ps b name b₁, Blanks b ∧ InQuotes ps name ∧ Blanks b₁ ∧
      cs = b ++ (name ++ (b₁ ++ ':' :: rest)) := by
  obtain ⟨tail, hstring, hcolon⟩ := Option.bind_eq_some_iff.mp h
  obtain ⟨ps, b, name, hb, hname, rfl⟩ := of_skipString hstring
  obtain ⟨b₁, hb₁, rfl⟩ := of_expect hcolon
  exact ⟨ps, b, name, b₁, hb, hname, hb₁, rfl⟩

/-- Before a name in an object, members and the closing brace are asked for. -/
lemma members_of_finishes {outer : List Bracket} {cs tail rest : List Char}
    (hskip : skipName cs = some tail) (h : Finishes .value (.object :: outer) tail rest) :
    ∃ ms tail, Wellformed .members ms ∧ cs = ms ++ '}' :: tail ∧ ClosesAll outer tail rest := by
  obtain ⟨ps, b, name, b₁, hb, hname, hb₁, rfl⟩ := of_skipName hskip
  obtain ⟨b₂, v, _, hb₂, hv, rfl, _, tail, hclosing, rfl, hall⟩ := h
  cases hclosing with
  | object hafter =>
      refine ⟨_, tail, .lastMember (.member hb hname hb₁ (.element hb₂ hv hafter)), ?_, hall⟩
      simp only [List.append_assoc, List.cons_append, List.nil_append]
  | moreMembers hafter hms =>
      refine ⟨_, tail, .moreMembers (.member hb hname hb₁ (.element hb₂ hv hafter)) hms, ?_, hall⟩
      simp only [List.append_assoc, List.cons_append, List.nil_append]

/-- One step before a value keeps what is asked of the text. -/
lemma finishes_of_enterValue {opened opened' : List Bracket} {place : Place}
    {cs tail rest : List Char} (h : enterValue opened cs = some (place, opened', tail))
    (hfinish : Finishes place opened' tail rest) : Finishes .value opened cs rest := by
  obtain ⟨b, hb, hcs⟩ := exists_eq_append_skipBlanks cs
  rw [enterValue.eq_def] at h
  split at h
  · rename_i text htext
    rw [htext] at hcs
    split at h
    · rename_i hclose
      cases h
      obtain ⟨b', hb', rfl⟩ := of_expect hclose
      refine ⟨b, _, tail, hb, .emptyArray hb', ?_, hfinish⟩
      simp only [hcs, List.append_assoc, List.cons_append, List.nil_append]
    · cases h
      obtain ⟨es, outside, hes, rfl, hall⟩ := elements_of_finishes hfinish
      refine ⟨b, _, outside, hb, .array hes, ?_, hall⟩
      simp only [hcs, List.append_assoc, List.cons_append, List.nil_append]
  · rename_i text htext
    rw [htext] at hcs
    split at h
    · rename_i hclose
      cases h
      obtain ⟨b', hb', rfl⟩ := of_expect hclose
      refine ⟨b, _, tail, hb, .emptyObject hb', ?_, hfinish⟩
      simp only [hcs, List.append_assoc, List.cons_append, List.nil_append]
    · obtain ⟨_, hskip, heq⟩ := Option.map_eq_some_iff.mp h
      cases heq
      obtain ⟨ms, outside, hms, rfl, hall⟩ := members_of_finishes hskip hfinish
      refine ⟨b, _, outside, hb, .object hms, ?_, hall⟩
      simp only [hcs, List.append_assoc, List.cons_append, List.nil_append]
  · obtain ⟨_, hscalar, heq⟩ := Option.map_eq_some_iff.mp h
    cases heq
    obtain ⟨v, hv, htext⟩ := of_skipScalar hscalar
    exact ⟨b, v, _, hb, hv, by rw [← htext]; exact hcs, hfinish⟩

/-- One step after a value keeps what is asked of the text. -/
lemma finishes_of_leaveValue {bracket : Bracket} {outer opened : List Bracket} {place : Place}
    {cs tail rest : List Char} (h : leaveValue bracket outer cs = some (place, opened, tail))
    (hfinish : Finishes place opened tail rest) : Finishes .after (bracket :: outer) cs rest := by
  obtain ⟨b, hb, hcs⟩ := exists_eq_append_skipBlanks cs
  rw [leaveValue.eq_def] at h
  split at h
  · rename_i text htext
    rw [htext] at hcs
    cases h
    obtain ⟨es, outside, hes, rfl, hall⟩ := elements_of_finishes hfinish
    refine ⟨_, outside, .moreElements hb hes, ?_, hall⟩
    simp only [hcs, List.append_assoc, List.cons_append, List.nil_append]
  · rename_i text htext
    rw [htext] at hcs
    cases h
    exact ⟨_, tail, .array hb, by rw [hcs, List.append_assoc, List.singleton_append], hfinish⟩
  · rename_i text htext
    rw [htext] at hcs
    obtain ⟨_, hskip, heq⟩ := Option.map_eq_some_iff.mp h
    cases heq
    obtain ⟨ms, outside, hms, rfl, hall⟩ := members_of_finishes hskip hfinish
    refine ⟨_, outside, .moreMembers hb hms, ?_, hall⟩
    simp only [hcs, List.append_assoc, List.cons_append, List.nil_append]
  · rename_i text htext
    rw [htext] at hcs
    cases h
    exact ⟨_, tail, .object hb, by rw [hcs, List.append_assoc, List.singleton_append], hfinish⟩
  · cases h

/-- Skipping to the end finds all that is asked of the text. -/
lemma finishes_of_skipFrom {place : Place} {opened : List Bracket} {cs rest : List Char}
    (h : skipFrom place opened cs = some rest) : Finishes place opened cs rest := by
  fun_induction skipFrom place opened cs with
  | case1 => exact Option.some.inj h
  | case2 _ _ _ _ _ _ hstep ih => exact finishes_of_leaveValue hstep (ih h)
  | case3 => cases h
  | case4 _ _ _ _ _ hstep ih => exact finishes_of_enterValue hstep (ih h)
  | case5 => cases h

/-- **What is skipped is a value of the grammar,** with the blanks before it. -/
theorem of_skipValue {cs rest : List Char} (h : skipValue cs = some rest) :
    ∃ b v, Blanks b ∧ Wellformed .value v ∧ cs = b ++ (v ++ rest) := by
  obtain ⟨b, v, tail, hb, hv, hcs, hrest⟩ := finishes_of_skipFrom h
  exact ⟨b, v, hb, hv, hrest ▸ hcs⟩

end Json

end ChipVm
