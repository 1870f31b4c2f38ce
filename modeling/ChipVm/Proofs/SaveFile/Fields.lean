import ChipVm.SaveFile.Reader
import ChipVm.Proofs.Json.Reading
import ChipVm.Proofs.SaveFile.Document

/-!
# Reading the fields of a saved state

What a field holds is read exactly if it is written as the grammar says.  Numbers and arrays of
numbers come first; a field is one or the other, with a bound on the numbers that its type sets and,
the stack apart, a length that its type sets too.

* `readBelow_append`, `of_readBelow` — numbers.
* `readNats_append`, `of_readNats` — arrays of numbers.
* **`readField_append`**, **`of_readField`** — what a field holds.
-/

namespace ChipVm

namespace SaveFile

open Json

/-! ## Numbers -/

lemma readBelow_append {bound n : Nat} {b ds rest : List Char} (hb : Blanks b)
    (h : Numeral n ds) (hn : n < bound) (hrest : Delimited rest) :
    readBelow bound (b ++ (ds ++ rest)) = some (n, rest) := by
  rw [readBelow, skipBlanks_append hb (h.solid.append rest),
    readNat_append h hrest.lacks_digit]
  exact if_pos hn

lemma of_readBelow {bound n : Nat} {cs rest : List Char} (h : readBelow bound cs = some (n, rest)) :
    n < bound ∧ ∃ b ds, Blanks b ∧ Numeral n ds ∧ cs = b ++ (ds ++ rest) := by
  obtain ⟨b, hb, hcs⟩ := exists_eq_append_skipBlanks cs
  rw [readBelow] at h
  split at h
  · rename_i m tail hm
    split_ifs at h with hlt
    cases h
    obtain ⟨ds, hds, hskip⟩ := of_readNat hm
    exact ⟨hlt, b, ds, hb, hds, hskip ▸ hcs⟩
  · cases h

/-! ## Arrays of numbers -/

lemma readItems_of_readBelow {bound n : Nat} {acc : List Nat} {cs rest : List Char}
    (h : readBelow bound cs = some (n, rest)) :
    readItems bound acc cs =
      match skipBlanks rest with
      | ',' :: tail => readItems bound (n :: acc) tail
      | ']' :: tail => some (n :: acc, tail)
      | _ => none := by
  rw [readItems]
  split
  · rename_i m tail hm
    obtain ⟨rfl, rfl⟩ := Prod.mk.inj (Option.some.inj (hm.symm.trans h))
    split <;> rename_i heq <;> simp_all
  · rename_i hnone
    exact absurd (hnone.symm.trans h) (by simp)

lemma readItems_append {bound : Nat} {ns : List Nat} {cs : List Char}
    (h : Separated (fun n => Padded (Numeral n)) ns cs) (hbound : ∀ n ∈ ns, n < bound)
    (acc : List Nat) (rest : List Char) :
    readItems bound acc (cs ++ ']' :: rest) = some (ns.reverse ++ acc, rest) := by
  induction h generalizing acc with
  | last h =>
      obtain ⟨hbefore, hds, hafter⟩ := h
      rw [List.append_assoc, List.append_assoc,
        readItems_of_readBelow (readBelow_append hbefore hds (hbound _ List.mem_cons_self)
          ((delimited_bracket rest).append hafter)),
        skipBlanks_append hafter (solid_cons rfl rest)]
      rfl
  | more h _ ih =>
      obtain ⟨hbefore, hds, hafter⟩ := h
      rw [List.append_assoc, List.append_assoc, List.append_assoc, List.cons_append,
        readItems_of_readBelow (readBelow_append hbefore hds (hbound _ List.mem_cons_self)
          ((delimited_comma _).append hafter)),
        skipBlanks_append hafter (solid_cons rfl _)]
      simp only [ih fun n hn => hbound n (List.mem_cons_of_mem _ hn), List.reverse_cons,
        List.append_assoc, List.singleton_append]

lemma of_readItems {bound : Nat} {acc ns : List Nat} {cs rest : List Char}
    (h : readItems bound acc cs = some (ns, rest)) :
    ∃ items text, Separated (fun n => Padded (Numeral n)) items text ∧
      (∀ n ∈ items, n < bound) ∧ ns = items.reverse ++ acc ∧ cs = text ++ ']' :: rest := by
  fun_induction readItems bound acc cs with
  | case1 acc cs n mid hn tail htail ih =>
      obtain ⟨hlt, b, ds, hb, hds, rfl⟩ := of_readBelow hn
      obtain ⟨after, hafter, rfl⟩ := of_skipBlanks_eq_cons htail
      obtain ⟨items, text, hitems, hbound, rfl, rfl⟩ := ih h
      refine ⟨n :: items, _, .more (.mk hb hds hafter) hitems, ?_, by simp, by simp⟩
      exact List.forall_mem_cons.mpr ⟨hlt, hbound⟩
  | case2 acc cs n mid hn tail htail =>
      cases h
      obtain ⟨hlt, b, ds, hb, hds, rfl⟩ := of_readBelow hn
      obtain ⟨after, hafter, rfl⟩ := of_skipBlanks_eq_cons htail
      exact ⟨[n], _, .last (.mk hb hds hafter), by simpa using hlt, rfl, by simp⟩
  | case3 => cases h
  | case4 => cases h

/-- Numbers do not begin with the bracket that closes an array. -/
lemma numerals_avoid {ns : List Nat} {cs : List Char}
    (h : Separated (fun n => Padded (Numeral n)) ns cs) : Avoids ']' cs := by
  have hpadded : ∀ {n : Nat} {ds : List Char}, Padded (Numeral n) ds → Avoids ']' ds := by
    rintro n ds ⟨hbefore, hds, hafter⟩
    obtain ⟨c, tail, rfl, hc⟩ := hds.solid
    rw [List.append_assoc]
    refine (avoids_cons hc ?_ _).blanks_append hbefore
    rintro rfl
    exact absurd (hds.digits.2 ']' List.mem_cons_self) (by decide)
  cases h with
  | last h => exact hpadded h
  | more h _ => exact (hpadded h).append _

lemma readNats_append {bound : Nat} {ns : List Nat} {b text : List Char} (hb : Blanks b)
    (h : NumberArray ns text) (hbound : ∀ n ∈ ns, n < bound) (rest : List Char) :
    readNats bound (b ++ (text ++ rest)) = some (ns.reverse, rest) := by
  cases h with
  | empty hblanks =>
      rw [List.cons_append, List.cons_append, List.append_assoc, List.singleton_append, readNats,
        expect_append hb rfl]
      simp only [expect_append (c := ']') hblanks rfl, List.reverse_nil]
  | items h =>
      rw [List.cons_append, List.cons_append, List.append_assoc, List.singleton_append, readNats,
        expect_append hb rfl]
      simp only [((numerals_avoid h).append _).expect_eq_none, readItems_append h hbound,
        List.append_nil]

lemma of_readNats {bound : Nat} {ns : List Nat} {cs rest : List Char}
    (h : readNats bound cs = some (ns, rest)) :
    (∀ n ∈ ns, n < bound) ∧
      ∃ b text, Blanks b ∧ NumberArray ns.reverse text ∧ cs = b ++ (text ++ rest) := by
  rw [readNats] at h
  split at h
  · rename_i body hbody
    obtain ⟨b, hb, rfl⟩ := of_expect hbody
    split at h
    · rename_i tail htail
      cases h
      obtain ⟨b', hb', rfl⟩ := of_expect htail
      exact ⟨by simp, b, _, hb, .empty hb', by simp⟩
    · obtain ⟨items, text, hitems, hbound, rfl, rfl⟩ := of_readItems h
      rw [List.append_nil, List.reverse_reverse]
      exact ⟨fun n hn => hbound n (List.mem_reverse.mp hn), b, _, hb, .items hitems, by simp⟩
  · cases h

/-! ## What a field holds -/

lemma map_map_eq_self {α β : Type} {f : α → β} {g : β → α} {as : List α}
    (h : ∀ a ∈ as, g (f a) = a) : (as.map f).map g = as := by
  rw [List.map_map]
  exact (List.map_congr_left h).trans (List.map_id as)

lemma forall_toNat_lt (bytes : List UInt8) : ∀ n ∈ bytes.map UInt8.toNat, n < 0x100 := by
  intro n hn
  obtain ⟨b, _, rfl⟩ := List.mem_map.mp hn
  exact b.toNat_lt

lemma forall_toNat_lt_words (words : List UInt16) :
    ∀ n ∈ words.map UInt16.toNat, n < 0x10000 := by
  intro n hn
  obtain ⟨w, _, rfl⟩ := List.mem_map.mp hn
  exact w.toNat_lt

lemma readBytes_append {n : Nat} {bytes : Vector UInt8 n} {b text : List Char} (hb : Blanks b)
    (h : NumberArray (bytes.toList.map UInt8.toNat) text) (rest : List Char) :
    readBytes n (b ++ (text ++ rest)) = some (bytes, rest) := by
  rw [readBytes, readNats_append hb h (forall_toNat_lt _)]
  have hlength : (bytes.toList.map UInt8.toNat).reverse.length = n := by simp
  simp only [dif_pos hlength, List.reverse_reverse,
    map_map_eq_self fun b (_ : b ∈ bytes.toList) => UInt8.ofNat_toNat]
  rfl

lemma of_readBytes {n : Nat} {bytes : Vector UInt8 n} {cs rest : List Char}
    (h : readBytes n cs = some (bytes, rest)) :
    ∃ b text, Blanks b ∧ NumberArray (bytes.toList.map UInt8.toNat) text ∧
      cs = b ++ (text ++ rest) := by
  rw [readBytes] at h
  split at h
  · rename_i ns tail hns
    obtain ⟨hbound, hread⟩ := of_readNats hns
    split_ifs at h with hlength
    cases h
    have hbytes : (ns.reverse.map UInt8.ofNat).map UInt8.toNat = ns.reverse :=
      map_map_eq_self fun n hn => UInt8.toNat_ofNat_of_lt' (hbound n (List.mem_reverse.mp hn))
    simpa only [Vector.toList_mk, hbytes] using hread
  · cases h

lemma readByte_append {byte : UInt8} {b ds rest : List Char} (hb : Blanks b)
    (h : Numeral byte.toNat ds) (hrest : Delimited rest) :
    readByte (b ++ (ds ++ rest)) = some (byte, rest) := by
  rw [readByte, readBelow_append hb h byte.toNat_lt hrest]
  simp only [Option.map_some, UInt8.ofNat_toNat]

lemma of_readByte {byte : UInt8} {cs rest : List Char} (h : readByte cs = some (byte, rest)) :
    ∃ b ds, Blanks b ∧ Numeral byte.toNat ds ∧ cs = b ++ (ds ++ rest) := by
  obtain ⟨⟨n, tail⟩, hn, heq⟩ := Option.map_eq_some_iff.mp h
  cases heq
  obtain ⟨hlt, hread⟩ := of_readBelow hn
  rwa [UInt8.toNat_ofNat_of_lt' hlt]

lemma readWord_append {word : UInt16} {b ds rest : List Char} (hb : Blanks b)
    (h : Numeral word.toNat ds) (hrest : Delimited rest) :
    readWord (b ++ (ds ++ rest)) = some (word, rest) := by
  rw [readWord, readBelow_append hb h word.toNat_lt hrest]
  simp only [Option.map_some, UInt16.ofNat_toNat]

lemma of_readWord {word : UInt16} {cs rest : List Char} (h : readWord cs = some (word, rest)) :
    ∃ b ds, Blanks b ∧ Numeral word.toNat ds ∧ cs = b ++ (ds ++ rest) := by
  obtain ⟨⟨n, tail⟩, hn, heq⟩ := Option.map_eq_some_iff.mp h
  cases heq
  obtain ⟨hlt, hread⟩ := of_readBelow hn
  rwa [UInt16.toNat_ofNat_of_lt' hlt]

lemma readWords_append {words : List UInt16} {b text : List Char} (hb : Blanks b)
    (h : NumberArray (words.reverse.map UInt16.toNat) text) (rest : List Char) :
    readWords (b ++ (text ++ rest)) = some (words, rest) := by
  rw [readWords, readNats_append hb h (forall_toNat_lt_words _)]
  simp only [Option.map_some, ← List.map_reverse, List.reverse_reverse,
    map_map_eq_self fun w (_ : w ∈ words) => UInt16.ofNat_toNat]

lemma of_readWords {words : List UInt16} {cs rest : List Char}
    (h : readWords cs = some (words, rest)) :
    ∃ b text, Blanks b ∧ NumberArray (words.reverse.map UInt16.toNat) text ∧
      cs = b ++ (text ++ rest) := by
  obtain ⟨⟨ns, tail⟩, hns, heq⟩ := Option.map_eq_some_iff.mp h
  cases heq
  obtain ⟨hbound, hread⟩ := of_readNats hns
  have hwords : (ns.map UInt16.ofNat).map UInt16.toNat = ns :=
    map_map_eq_self fun n hn => UInt16.toNat_ofNat_of_lt' (hbound n hn)
  rwa [List.map_reverse, hwords]

/-- **What a field holds is read** as it is written. -/
theorem readField_append {f : Field} {value : f.Value} {b text rest : List Char} (hb : Blanks b)
    (h : FieldText f value text) (hrest : Delimited rest) :
    readField f (b ++ (text ++ rest)) = some (value, rest) := by
  cases f with
  | memory => exact readBytes_append hb h rest
  | v => exact readBytes_append hb h rest
  | i => exact readWord_append hb h hrest
  | pc => exact readWord_append hb h hrest
  | stack => exact readWords_append hb h rest
  | display => exact readBytes_append hb h rest
  | delayTimer => exact readByte_append hb h hrest
  | soundTimer => exact readByte_append hb h hrest

/-- **What is read as a field is written** as the field asks for. -/
theorem of_readField {f : Field} {value : f.Value} {cs rest : List Char}
    (h : readField f cs = some (value, rest)) :
    ∃ b text, Blanks b ∧ FieldText f value text ∧ cs = b ++ (text ++ rest) := by
  cases f with
  | memory => exact of_readBytes h
  | v => exact of_readBytes h
  | i => exact of_readWord h
  | pc => exact of_readWord h
  | stack => exact of_readWords h
  | display => exact of_readBytes h
  | delayTimer => exact of_readByte h
  | soundTimer => exact of_readByte h

end SaveFile

end ChipVm
