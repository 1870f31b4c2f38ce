import ChipVm.Proofs.CommandLine.Spelling

/-!
# Reading items

Whatever the order of its items and however they are written, a command line is read item by item.
An item may wait for the next one before it is taken in, but nothing comes of this: reading the
items one after the other is taking them in one after the other, each of them if there has been none
of its kind.

* `CommandLine.Progress.enter` — taking in an item.
* `CommandLine.foldlM_enter` — this succeeds if no two of them are of a kind.
* `CommandLine.takeAll_words` — an item is read once what waits before it is settled.
* **`CommandLine.finish_items`** — reading items is taking them in one after the other.
-/

namespace ChipVm

namespace CommandLine

/-! ## Taking in items -/

/-- The kinds of items. -/
inductive Part where
  | rom
  | setting (s : Setting)
  | paused
  deriving DecidableEq

/-- The kind of an item. -/
def Item.part : Item → Part
  | .rom _ => .rom
  | .setting (s := s) _ _ => .setting s
  | .paused => .paused

namespace Progress

/-- Whether an item of a kind has been taken in. -/
def holds (p : Progress) : Part → Bool
  | .rom => p.rom.isSome
  | .setting s => p.has s
  | .paused => p.paused

/-- What was read, with a value for an option. -/
def choose (p : Progress) : {s : Setting} → Value s → Progress
  | _, .scale _ n _ => { p with scale := some n }
  | _, .clockSpeed _ n _ => { p with clockSpeed := some n }
  | _, .stateFile file => { p with stateFile := some file.text }

/-- What was read, with one more item. -/
def record (p : Progress) : Item → Progress
  | .rom file => { p with rom := some file.text }
  | .setting _ value => p.choose value
  | .paused => { p with paused := true }

/-- Takes in an item of which kind there has been none. -/
def enter (p : Progress) (item : Item) : Except Rejection Progress :=
  if p.holds item.part then .error .repeated else .ok (p.record item)

variable (p : Progress)

@[simp] lemma waiting_record (item : Item) : (p.record item).waiting = p.waiting := by
  rcases item with file | ⟨form, value⟩ | _
  · rfl
  · cases value <;> rfl
  · rfl

lemma holds_record (item : Item) (part : Part) :
    (p.record item).holds part = (decide (part = item.part) || p.holds part) := by
  rcases item with file | ⟨form, value⟩ | _
  · cases part <;> simp [record, holds, Item.part, has]
  · cases value <;> rcases part with _ | ⟨⟨⟩⟩ | _ <;>
      simp [record, choose, holds, Item.part, has]
  · cases part <;> simp [record, holds, Item.part, has]

end Progress

open Progress

/-- **Items are taken in if no two of them are of a kind,** and there has been none of their kinds
before. -/
lemma foldlM_enter (items : List Item) (p : Progress) :
    items.foldlM enter p =
      if (∀ item ∈ items, p.holds item.part = false) ∧ (items.map Item.part).Nodup
      then .ok (items.foldl record p) else .error .repeated := by
  induction items generalizing p with
  | nil => simp; rfl
  | cons item items ih =>
      rw [List.foldlM_cons, enter]
      by_cases hitem : p.holds item.part = true
      · have hnot : ¬ ((∀ it ∈ item :: items, p.holds it.part = false) ∧
            ((item :: items).map Item.part).Nodup) := fun h =>
          Bool.false_ne_true ((h.1 item List.mem_cons_self).symm.trans hitem)
        rw [if_pos hitem, if_neg hnot]
        rfl
      · have hiff : ((∀ it ∈ items, (p.record item).holds it.part = false) ∧
            (items.map Item.part).Nodup) ↔ ((∀ it ∈ item :: items, p.holds it.part = false) ∧
              ((item :: items).map Item.part).Nodup) := by
          simp only [holds_record, Bool.or_eq_false_iff, decide_eq_false_iff_not, forall_and,
            List.forall_mem_cons, List.map_cons, List.nodup_cons, List.mem_map, not_exists, not_and]
          simp only [hitem, true_and]
          tauto
        rw [if_neg hitem]
        exact (ih (p.record item)).trans (if_congr hiff rfl rfl)

/-! ## Reading items -/

/-- Whether an option waits after its value was read. -/
def Form.waits {s : Setting} : Form s → Bool
  | .long | .short _ _ => true
  | .longEquals | .shortJoined _ _ | .shortEquals _ _ => false

/-- What reading an item leads to: some items wait, and the others are taken in. -/
def Progress.await (q : Progress) : Item → Except Rejection Progress
  | .rom file => .ok { q with waiting := .rom file.text }
  | .setting (s := s) form value =>
      if form.waits then .ok { q with waiting := .setting s (some value.text) }
      else q.enter (.setting form value)
  | .paused => q.enter .paused

/-- No option waits for its value. -/
def Progress.Complete (p : Progress) : Prop := ∀ s, p.waiting ≠ .setting s none

variable {p q : Progress} {s : Setting}

lemma settle_of_nothing (h : p.waiting = .nothing) : settle p = .ok p := by
  cases p
  obtain rfl := h
  rfl

lemma complete_of_nothing (h : p.waiting = .nothing) : p.Complete := by
  intro s hs
  cases h.symm.trans hs

lemma namesRom_of_nothing (h : p.waiting = .nothing) : p.namesRom = p.rom.isSome := by
  rw [namesRom, h]

/-- The value that is written is the one that is taken in. -/
lemma takeSetting_text (q : Progress) (form : Form s) (value : Value s) :
    takeSetting q s value.text = q.enter (.setting form value) := by
  have htake : takeValue q s value.text = .ok (q.choose value) := by
    cases value with
    | scale style n h => simp [takeValue, readScale, Value.text, readNumeral_text, h, choose]
    | clockSpeed style n h => simp [takeValue, readSpeed, Value.text, readNumeral_text, h, choose]
    | stateFile file => simp [takeValue, Value.text, file.ne_empty, choose]
  rw [takeSetting, htake]
  rfl

lemma of_takeSetting {value : String} (h : takeSetting p s value = .ok q) :
    q.waiting = p.waiting ∧ q.rom = p.rom := by
  rw [takeSetting] at h
  split at h
  · cases h
  · cases s <;> rw [takeValue] at h <;> split at h <;> cases h <;> exact ⟨rfl, rfl⟩

/-- What has been settled waits for nothing. -/
lemma of_settle (h : settle p = .ok q) : q.waiting = .nothing ∧ q.rom.isSome = p.namesRom := by
  rcases p with ⟨rom, scale, clockSpeed, stateFile, paused, waiting⟩
  rcases waiting with _ | ⟨s, _ | value⟩ | path
  · cases h
    exact ⟨rfl, rfl⟩
  · cases h
  · obtain ⟨hwaiting, hrom⟩ := of_takeSetting h
    exact ⟨hwaiting, congrArg Option.isSome hrom⟩
  · simp only [settle] at h
    split at h <;> cases h
    exact ⟨rfl, rfl⟩

lemma takeAll_cons {text : String} {a : Argument} (h : Argument.ofString text = a)
    (ha : a ≠ .separator) (p : Progress) (rest : List String) :
    takeAll p (text :: rest) = takeArgument p a >>= fun p => takeAll p rest := by
  rw [takeAll, h]
  cases a with
  | separator => exact absurd rfl ha
  | _ =>
      dsimp only
      split <;> rename_i htake <;> rw [htake] <;> rfl

/-- A name of an option with its value as the next argument. -/
lemma takeAll_spaced {name : String} {a : Argument} (hname : Argument.ofString name = a)
    (ha : a ≠ .separator) (htake : ∀ p, takeArgument p a = takeOption p s none) (value : Value s)
    (p : Progress) (rest : List String) :
    takeAll p (name :: value.text :: rest) = settle p >>= fun q =>
      takeAll { q with waiting := .setting s (some value.text) } rest := by
  rw [takeAll_cons hname ha, htake, takeOption, bind_assoc]
  rcases settle p with rejection | q
  · rfl
  · exact takeAll_cons (ofString_of_head_ne value.head_ne) (by simp) _ rest

/-- An option with its value in one argument. -/
lemma takeAll_joined {text : String} {a : Argument} {form : Form s} {value : Value s}
    (htext : Argument.ofString text = a) (ha : a ≠ .separator)
    (htake : ∀ p, takeArgument p a = takeOption p s (some value.text))
    (p : Progress) (rest : List String) :
    takeAll p (text :: rest) = settle p >>= fun q =>
      q.enter (.setting form value) >>= fun q => takeAll q rest := by
  rw [takeAll_cons htext ha, htake, takeOption, bind_assoc]
  rcases settle p with rejection | q
  · rfl
  · exact congrArg (· >>= fun q => takeAll q rest) (takeSetting_text q form value)

lemma takeArgument_name (s : Setting) (value : Option String) (p : Progress) :
    takeArgument p (.long s.name value) = takeOption p s value := by
  cases s <;> rfl

lemma takeArgument_letter {letter : Char} (h : s.letter? = some letter) (rest : List Char)
    (p : Progress) :
    takeArgument p (.short letter rest) = takeOption p s (attachedValue rest) := by
  cases s with
  | scale | clockSpeed =>
      obtain rfl := Option.some.inj h
      rfl
  | stateFile => cases h

/-- **An item is read once what waits before it is settled.** -/
lemma takeAll_words (item : Item) (hp : p.Complete)
    (hrom : item.part = .rom → p.namesRom = false) (rest : List String) :
    takeAll p (item.words ++ rest) = settle p >>= fun q =>
      q.await item >>= fun q => takeAll q rest := by
  cases item with
  | rom file =>
      have hplain : takePlain p file.text = takeName p file.text := by
        unfold takePlain
        split
        · exact absurd ‹_› (hp _)
        · rfl
      rw [Item.words, List.singleton_append,
        takeAll_cons (ofString_of_head_ne file.head_ne) (by simp), takeArgument, hplain, takeName,
        if_neg (by simp [hrom rfl]), bind_assoc]
      rfl
  | paused =>
      rw [Item.words, List.singleton_append,
        takeAll_cons (show Argument.ofString "--paused" = .long "paused" none from rfl) (by simp)]
      show (settle p >>= fun q => _) >>= _ = _
      rw [bind_assoc]
      rfl
  | setting form value =>
      cases form with
      | long =>
          exact takeAll_spaced (ofString_name _) (by simp) (takeArgument_name _ none) value p rest
      | short letter h =>
          exact takeAll_spaced (a := .short letter []) (by simpa using ofString_letter h "")
            (by simp) (takeArgument_letter h []) value p rest
      | longEquals =>
          exact takeAll_joined (ofString_name_equals _ _) (by simp) (takeArgument_name _ _) p rest
      | shortJoined letter h =>
          refine takeAll_joined (ofString_letter h _) (by simp) (fun p => ?_) p rest
          rw [takeArgument_letter h, value.attachedValue_text h]
      | shortEquals letter h =>
          refine takeAll_joined (a := .short letter ('=' :: value.text.toList)) ?_
            (by simp) (fun p => ?_) p rest
          · rw [String.append_assoc, ofString_letter h, String.toList_append]
            rfl
          · rw [takeArgument_letter h, attachedValue, String.ofList_toList]

/-- What waits after an item, taken in, is the item. -/
lemma await_settle {item : Item} (hq : q.waiting = .nothing)
    (hrom : item.part = .rom → q.rom.isSome = false) :
    (q.await item >>= settle) = q.enter item := by
  have hrest : { q with waiting := .nothing } = q := by rw [← hq]
  have henter : (q.enter item >>= settle) = q.enter item := by
    unfold Progress.enter
    split
    · rfl
    · exact settle_of_nothing ((waiting_record q item).trans hq)
  cases item with
  | rom file =>
      have hheld : q.holds (.rom file : Item).part = false := hrom rfl
      show (if file.text = "" then _ else Except.ok { { q with waiting := .nothing } with
        rom := some file.text }) = q.enter (.rom file)
      rw [if_neg file.ne_empty, hrest, Progress.enter, hheld]
      rfl
  | setting form value =>
      rw [Progress.await]
      split_ifs
      · show takeSetting { q with waiting := .nothing } _ value.text = _
        rw [hrest, takeSetting_text q form value]
      · exact henter
  | paused => exact henter

/-- What waits after an item does not wait for its value, and it may be the name of a program. -/
lemma of_await {item : Item} (hq : q.waiting = .nothing) (h : q.await item = .ok p) :
    p.Complete ∧ p.namesRom = (decide (.rom = item.part) || q.rom.isSome) := by
  have henter (h : q.enter item = .ok p) :
      p.Complete ∧ p.namesRom = (decide (.rom = item.part) || q.rom.isSome) := by
    unfold Progress.enter at h
    split at h
    · cases h
    · cases h
      have hp := (waiting_record q item).trans hq
      exact ⟨complete_of_nothing hp, (namesRom_of_nothing hp).trans (holds_record q item .rom)⟩
  cases item with
  | rom file =>
      cases h
      exact ⟨fun _ hs => (by cases hs), rfl⟩
  | setting form value =>
      rw [Progress.await] at h
      split_ifs at h
      · cases h
        exact ⟨fun _ hs => (by cases hs), rfl⟩
      · exact henter h
  | paused => exact henter h

/-- Reads the rest of a line and takes in what waits at its end. -/
def finish (p : Progress) (words : List String) : Except Rejection Progress :=
  takeAll p words >>= settle

/-- **Reading items is taking them in one after the other,** if they name one program at most. -/
theorem finish_items (items : List Item) (hp : p.Complete)
    (hroms : p.namesRom.toNat + (items.map Item.part).count .rom ≤ 1) :
    finish p (items.flatMap Item.words) = settle p >>= fun q => items.foldlM enter q := by
  -- `p` may hold an item that waits, which is settled before the next one is read
  induction items generalizing p with
  | nil => exact (bind_pure (settle p)).symm
  | cons item items ih =>
      have hrom (h : item.part = .rom) : p.namesRom = false := by
        rw [List.map_cons, h, List.count_cons_self] at hroms
        exact Bool.toNat_eq_zero.mp (by omega)
      rw [List.flatMap_cons, finish, takeAll_words item hp hrom, bind_assoc]
      rcases hsettle : settle p with rejection | q
      · rfl
      obtain ⟨hq, hqp⟩ := of_settle hsettle
      have hawait : (q.await item >>= settle) = q.enter item :=
        await_settle hq fun h => hqp.trans (hrom h)
      show ((q.await item >>= fun p => takeAll p _) >>= settle) = (item :: items).foldlM enter q
      rw [List.foldlM_cons, ← hawait, bind_assoc, bind_assoc]
      rcases hnext : q.await item with rejection | p'
      · rfl
      obtain ⟨hp', hname⟩ := of_await hq hnext
      refine ih hp' ?_
      rw [hname, hqp]
      by_cases hpart : item.part = .rom
      · -- the item is the only one that names a program
        rw [List.map_cons, hpart, List.count_cons_self] at hroms
        rw [hrom hpart, hpart]
        show 1 + (items.map Item.part).count .rom ≤ 1
        omega
      · rw [List.map_cons, List.count_cons_of_ne hpart] at hroms
        rwa [decide_eq_false (Ne.symm hpart), Bool.false_or]

end CommandLine

end ChipVm
