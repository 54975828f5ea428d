import Mathlib.Data.String.Basic
import RemoteUi.Proofs.Text.Readback
import RemoteUi.Wire.Document

/-!
# Documents read back

A document whose fields have proper names is read from its own markup as it was: no value can break
out of its element, since neither angle bracket survives the escaping.

* §1 entity text;
* §2 names of elements;
* §3 one field;
* §4 the fields of a document;
* §5 the document;
* §6 how long it is at least.
-/

namespace RemoteUi.Wire

open RemoteUi.Text

/-! ## §1 Entity text -/

namespace Entity

/-- An ordinary character is written as it is. -/
theorem escapeChar_of_ne {c : Char} (hamp : c ≠ '&') (hlt : c ≠ '<') (hgt : c ≠ '>') :
    escapeChar c = [c] := by
  unfold escapeChar
  split <;> first | contradiction | rfl

/-- No entity text that was written has an angle bracket in it. -/
theorem not_mem_escape {bracket : Char} (hbracket : bracket = '<' ∨ bracket = '>')
    (s : List Char) : bracket ∉ escape s := by
  intro h
  obtain ⟨c, -, hc⟩ := List.mem_flatMap.mp h
  unfold escapeChar at hc
  split at hc
  · rcases hbracket with rfl | rfl <;> exact absurd hc (by decide)
  · rcases hbracket with rfl | rfl <;> exact absurd hc (by decide)
  · rcases hbracket with rfl | rfl <;> exact absurd hc (by decide)
  · next hlt hgt =>
    obtain rfl := List.mem_singleton.mp hc
    exact hbracket.elim hlt hgt

/-- The entity of a character is read as the character. -/
theorem unescape_entity (name : List Char) {d : Char} (hmark : ';' ∉ name)
    (hname : charOfName? name = some d) (rest : List Char) :
    unescape ('&' :: (name ++ ([';'] ++ rest))) = (unescape rest).map (d :: ·) := by
  rw [unescape, if_pos rfl]
  split
  · next hnone =>
    rw [splitAtMark?_append hmark] at hnone
    cases hnone
  · next name' rest' hsome =>
    rw [splitAtMark?_append hmark] at hsome
    obtain ⟨rfl, rfl⟩ := Prod.mk.inj (Option.some.inj hsome)
    simp only [hname]

/-- A character is read from the way it is written. -/
theorem unescape_escapeChar (c : Char) (rest : List Char) :
    unescape (escapeChar c ++ rest) = (unescape rest).map (c :: ·) := by
  by_cases hamp : c = '&'
  · subst hamp
    exact unescape_entity "amp".toList (by decide) (by decide) rest
  by_cases hlt : c = '<'
  · subst hlt
    exact unescape_entity "lt".toList (by decide) (by decide) rest
  by_cases hgt : c = '>'
  · subst hgt
    exact unescape_entity "gt".toList (by decide) (by decide) rest
  rw [escapeChar_of_ne hamp hlt hgt, List.singleton_append, unescape, if_neg hamp]

/-- **Every text is read from its entity text.** -/
theorem unescape_escape (s : List Char) : unescape (escape s) = .ok s := by
  induction s with
  | nil => rw [escape, List.flatMap_nil, unescape]
  | cons c s ih =>
    rw [escape] at ih
    rw [escape, List.flatMap_cons, unescape_escapeChar, ih]
    rfl

end Entity

/-! ## §2 Names -/

/-- A character that is neither a letter nor a numeral nor one of the three marks is in no name. -/
theorem not_mem_of_isElementName {name : List Char} (hname : isElementName name) {c : Char}
    (hc : isLetterOrNumeral c = false) (hmarks : c ≠ '_' ∧ c ≠ '-' ∧ c ≠ '.') : c ∉ name := by
  cases name with
  | nil => exact List.not_mem_nil
  | cons d rest =>
    simp only [isElementName, Bool.and_eq_true, Bool.or_eq_true, List.all_eq_true,
      decide_eq_true_eq] at hname
    intro hmem
    rcases List.mem_cons.mp hmem with rfl | hmem
    · have hletter : isLetter c = false := (Bool.or_eq_false_iff.mp hc).1
      rcases hname.1 with h | h
      · exact absurd (hletter.symm.trans h) Bool.false_ne_true
      · exact hmarks.1 h
    · rcases hname.2 c hmem with ((h | h) | h) | h
      · exact absurd (hc.symm.trans h) Bool.false_ne_true
      · exact hmarks.1 h
      · exact hmarks.2.1 h
      · exact hmarks.2.2 h

theorem gt_not_mem_of_isElementName {name : List Char} (hname : isElementName name) :
    '>' ∉ name :=
  not_mem_of_isElementName hname (by decide +kernel) (by decide)

theorem slash_not_mem_of_isElementName {name : List Char} (hname : isElementName name) :
    '/' ∉ name :=
  not_mem_of_isElementName hname (by decide +kernel) (by decide)

/-! ## §3 One field -/

/-- Blanks are dropped in front of a bracket only. -/
theorem trimStart_cons_lt (s : List Char) : trimStart ('<' :: s) = '<' :: s := by
  have h : isBlank '<' = false := by decide
  simp [trimStart, h]

/-- **A field reads back, whatever stands after it.** -/
theorem readField_writeField {field : String × String} (hname : isElementName field.1.toList)
    (rest : List Char) :
    readField (writeField field ++ rest) = .ok ⟨field.1.toList, field.2.toList, rest⟩ := by
  obtain ⟨key, value⟩ := field
  dsimp only at hname ⊢
  have htext : writeField (key, value) ++ rest = '<' :: (key.toList ++ (['>'] ++
      (Entity.escape value.toList ++ (endTag key.toList ++ rest)))) := by
    simp [writeField, startTag]
  have hstart : afterMark? ['<'] (writeField (key, value) ++ rest) = some (key.toList ++ (['>'] ++
      (Entity.escape value.toList ++ (endTag key.toList ++ rest)))) := by
    rw [htext]
    exact afterMark?_append ['<'] _
  have hlast : ¬ key.toList.getLast? = some '/' := fun h =>
    slash_not_mem_of_isElementName hname (List.mem_of_getLast? h)
  have hend : splitAtMark? (endTag key.toList)
      (Entity.escape value.toList ++ (endTag key.toList ++ rest)) =
        some (Entity.escape value.toList, rest) :=
    splitAtMark?_append (Entity.not_mem_escape (.inl rfl) value.toList) rest
  simp only [readField, hstart, splitAtMark?_append (gt_not_mem_of_isElementName hname), hlast,
    ↓reduceIte, checkElementName, hname, hend, Entity.unescape_escape]
  rfl

/-- The element of a field is not the end of the document. -/
theorem afterMark?_endTag_writeField {field : String × String}
    (hname : isElementName field.1.toList) (rest : List Char) :
    afterMark? (endTag rootName) (writeField field ++ rest) = none := by
  have hslash := slash_not_mem_of_isElementName hname
  cases hkey : field.1.toList with
  | nil =>
    rw [hkey] at hname
    cases hname
  | cons c name =>
    rw [hkey] at hslash
    have hc : '/' ≠ c := fun h => hslash (h ▸ List.mem_cons_self)
    simp [writeField, startTag, hkey, endTag, afterMark?, hc]

/-- The element of a field starts with a bracket. -/
theorem trimStart_writeField (field : String × String) (rest : List Char) :
    trimStart (writeField field ++ rest) = writeField field ++ rest := by
  simpa [writeField, startTag] using trimStart_cons_lt _

/-! ## §4 Fields -/

namespace Document

/-- A field with a new name comes last. -/
theorem setField_of_not_mem {key : String} {fields : List (String × String)}
    (h : key ∉ fields.map (·.1)) (value : String) :
    setField key value fields = fields ++ [(key, value)] := by
  induction fields with
  | nil => rfl
  | cons field fields ih =>
    obtain ⟨k, v⟩ := field
    rw [List.map_cons, List.mem_cons, not_or] at h
    rw [setField, if_neg (Ne.symm h.1), ih h.2, List.cons_append]

theorem insert_of_not_mem {doc : Document} {key : String} (h : key ∉ doc.fields.map (·.1))
    (value : String) : doc.insert key value = ⟨doc.fields ++ [(key, value)]⟩ := by
  rw [insert, setField_of_not_mem h]

/-- Setting fields with new names, one after the other, puts them behind the others. -/
theorem foldl_insert_of_nodup (doc : Document) (fields : List (String × String))
    (h : ((doc.fields ++ fields).map (·.1)).Nodup) :
    fields.foldl (fun doc field => doc.insert field.1 field.2) doc = ⟨doc.fields ++ fields⟩ := by
  induction fields generalizing doc with
  | nil => simp
  | cons field fields ih =>
    have hnew : field.1 ∉ doc.fields.map (·.1) := by
      simp only [List.map_append, List.map_cons, List.nodup_append] at h
      exact fun hmem => h.2.2 _ hmem _ List.mem_cons_self rfl
    rw [List.foldl_cons, insert_of_not_mem hnew, ih _ (by simpa using h)]
    simp

/-- In a document without repeated names, the value of a field is what stands there. -/
theorem get?_eq_some_iff {doc : Document} (h : (doc.fields.map (·.1)).Nodup) (key value : String) :
    doc.get? key = some value ↔ (key, value) ∈ doc.fields := by
  obtain ⟨fields⟩ := doc
  unfold get?
  induction fields with
  | nil => simp
  | cons field fields ih =>
    obtain ⟨k, v⟩ := field
    rw [List.map_cons, List.nodup_cons] at h
    by_cases hk : k = key
    · subst hk
      have hnot : (k, value) ∉ fields := fun hmem => h.1 (List.mem_map.mpr ⟨_, hmem, rfl⟩)
      simp [hnot, eq_comm]
    · simpa [List.find?_cons, hk, Ne.symm hk] using ih h.2

theorem get?_eq_none {doc : Document} {key : String} (h : key ∉ doc.fields.map (·.1)) :
    doc.get? key = none := by
  rw [get?, Option.map_eq_none_iff, List.find?_eq_none]
  intro field hfield heq
  exact h (List.mem_map.mpr ⟨field, hfield, by simpa using heq⟩)

end Document

/-- **The fields of a document read back.** -/
theorem readFields_flatMap_writeField (doc : Document) {fields : List (String × String)}
    (hnames : ∀ field ∈ fields, isElementName field.1.toList) :
    readFields doc (fields.flatMap writeField ++ endTag rootName) =
      .ok (fields.foldl (fun doc field => doc.insert field.1 field.2) doc) := by
  induction fields generalizing doc with
  | nil =>
    have hend : afterMark? (endTag rootName) (trimStart (endTag rootName)) = some [] := by decide
    rw [readFields, List.flatMap_nil, List.nil_append, hend]
    rfl
  | cons field fields ih =>
    have hfield := hnames field List.mem_cons_self
    rw [List.flatMap_cons, List.append_assoc, readFields, trimStart_writeField,
      afterMark?_endTag_writeField hfield]
    dsimp only
    split
    · next herror =>
      rw [readField_writeField hfield] at herror
      cases herror
    · next e hok =>
      rw [readField_writeField hfield] at hok
      cases hok
      simp only [String.ofList_toList, List.foldl_cons]
      exact ih _ fun f hf => hnames f (List.mem_cons_of_mem _ hf)

/-! ## §5 Documents -/

/-- A document that can be written: the names of its fields are names of elements, and none is
there twice. -/
structure Document.Proper (doc : Document) : Prop where
  names : ∀ field ∈ doc.fields, isElementName field.1.toList
  nodup : (doc.fields.map (·.1)).Nodup

/-- The prolog is skipped. -/
theorem skipProlog_prolog (rest : List Char) :
    skipProlog (trimStart (prolog ++ '<' :: rest)) = .ok ('<' :: rest) := by
  have hopen : prolog ++ '<' :: rest =
      "<?".toList ++ ("xml version=\"1.0\" encoding=\"UTF-8\"".toList ++
        ("?>".toList ++ '<' :: rest)) := by
    rw [← List.append_assoc, ← List.append_assoc]
    rfl
  have hclose : splitAtMark? "?>".toList ("xml version=\"1.0\" encoding=\"UTF-8\"".toList ++
      ("?>".toList ++ '<' :: rest)) = some ("xml version=\"1.0\" encoding=\"UTF-8\"".toList,
        '<' :: rest) :=
    @splitAtMark?_append '?' ['>'] _ (by decide) _
  have htrim : trimStart (prolog ++ '<' :: rest) = prolog ++ '<' :: rest := trimStart_cons_lt _
  rw [htrim, hopen, skipProlog, afterMark?_append]
  dsimp only
  rw [hclose]
  dsimp only
  rw [trimStart_cons_lt]

/-- **A proper document reads back.** -/
theorem Document.read_write {doc : Document} (h : doc.Proper) : read doc.write = .ok doc := by
  have hwrite : doc.write = prolog ++ '<' :: (rootName ++ ['>'] ++
      (doc.fields.flatMap writeField ++ endTag rootName)) := by
    simp [write, startTag]
  have hroot : '<' :: (rootName ++ ['>'] ++ (doc.fields.flatMap writeField ++ endTag rootName)) =
      startTag rootName ++ (doc.fields.flatMap writeField ++ endTag rootName) := rfl
  have hnotEmpty : afterMark? "<xul/>".toList
      (startTag rootName ++ (doc.fields.flatMap writeField ++ endTag rootName)) = none := by
    simp [startTag, rootName, afterMark?]
  have hfields := foldl_insert_of_nodup ∅ doc.fields h.nodup
  simp only [read, hwrite, skipProlog_prolog, bind, Except.bind]
  rw [hroot, hnotEmpty, afterMark?_append]
  dsimp only
  rw [readFields_flatMap_writeField ∅ h.names, hfields]
  rfl

theorem Document.ofText_text {doc : Document} (h : doc.Proper) :
    Document.ofText doc.text = .ok doc := by
  rw [ofText, text, String.toList_ofList, read_write h]
  rfl

/-! ## §6 Length -/

/-- A text has at least as many bytes as characters. -/
theorem length_le_utf8ByteSize_ofList (s : List Char) : s.length ≤ (String.ofList s).utf8ByteSize := by
  rw [String.utf8ByteSize_ofList]
  induction s with
  | nil => exact Nat.zero_le _
  | cons c s ih =>
    have hc := c.utf8Size_pos
    rw [List.length_cons, String.utf8Len_cons]
    omega

/-- Escaping makes no text shorter. -/
theorem Entity.length_le_length_escape (s : List Char) : s.length ≤ (escape s).length := by
  induction s with
  | nil => exact Nat.le_refl _
  | cons c s ih =>
    have hc : 1 ≤ (escapeChar c).length := by
      unfold escapeChar
      split <;> simp
    rw [escape] at ih
    rw [escape, List.flatMap_cons, List.length_append, List.length_cons]
    omega

/-- A field is longer than its value. -/
theorem Document.length_lt_length_writeField (field : String × String) :
    field.2.length < (writeField field).length := by
  have hvalue := Entity.length_le_length_escape field.2.toList
  rw [String.length_toList] at hvalue
  simp only [writeField, startTag, List.length_append, List.length_cons]
  omega

/-- **A document is longer than each of the values in it.** -/
theorem Document.length_lt_of_mem {doc : Document} {field : String × String}
    (h : field ∈ doc.fields) : field.2.length < doc.text.utf8ByteSize := by
  have hfields : (writeField field).length ≤ (doc.fields.flatMap writeField).length := by
    rw [List.flatMap_def]
    exact (List.sublist_flatten_of_mem (List.mem_map_of_mem h)).length_le
  have hwrite : (doc.fields.flatMap writeField).length ≤ doc.write.length := by
    simp only [write, List.length_append]
    omega
  calc field.2.length
      < (writeField field).length := length_lt_length_writeField field
    _ ≤ doc.write.length := hfields.trans hwrite
    _ ≤ doc.text.utf8ByteSize := length_le_utf8ByteSize_ofList doc.write

end RemoteUi.Wire
