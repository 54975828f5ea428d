import RemoteUi.Proofs.Wire.DocumentCodec
import RemoteUi.Proofs.Wire.EntityText

/-!
# The grammar of documents

Which texts are documents is said here by a grammar, which neither searches nor trims.  The reader
accepts the texts of the grammar with the settings that these stand for, and it refuses all others.
A value may hold brackets and whole elements: it ends where the end tag of its own name occurs first.

* §1 the grammar;
* §2 names;
* §3 one field;
* §4 the fields;
* §5 the document.
-/

namespace RemoteUi.Wire

open RemoteUi.Text

variable {s name value text texts rest blanks : List Char} {settings : List (String × String)}

/-! ## §1 The grammar -/

/-- A text of blanks only. -/
def Blanks (s : List Char) : Prop := ∀ c ∈ s, isBlank c

/-- A name of elements: a letter or an underscore, then letters, numerals and the three marks. -/
def IsName (name : List Char) : Prop :=
  ∃ c rest, name = c :: rest ∧ (isLetter c ∨ c = '_') ∧
    ∀ d ∈ rest, isLetterOrNumeral d ∨ d = '_' ∨ d = '-' ∨ d = '.'

/-- The element of a field, with its name and its value. -/
inductive FieldText : (text name value : List Char) → Prop where
  /-- An empty element stands for the empty value. -/
  | empty {name blanks : List Char} (hname : IsName name) (hblanks : Blanks blanks) :
      FieldText ('<' :: (name ++ (blanks ++ ['/', '>']))) name []
  /-- The end tag does not occur before the end. -/
  | full {name raw value : List Char} (hname : IsName name) (hraw : ¬ endTag name <:+: raw)
      (hvalue : Entity.Spells raw value) :
      FieldText (startTag name ++ (raw ++ endTag name)) name value

/-- The elements of some fields, with blanks before each, and what they set. -/
inductive FieldTexts : (texts : List Char) → (settings : List (String × String)) → Prop where
  | nil : FieldTexts [] []
  | cons {blanks text name value texts : List Char} {settings : List (String × String)}
      (hblanks : Blanks blanks) (hfield : FieldText text name value)
      (hfields : FieldTexts texts settings) :
      FieldTexts (blanks ++ (text ++ texts))
        ((String.ofList name, String.ofList value) :: settings)

/-- The root element. -/
inductive RootText : (text : List Char) → (settings : List (String × String)) → Prop where
  | empty : RootText "<xul/>".toList []
  | full {texts blanks : List Char} {settings : List (String × String)}
      (hfields : FieldTexts texts settings) (hblanks : Blanks blanks) :
      RootText ("<xul>".toList ++ (texts ++ (blanks ++ "</xul>".toList))) settings

/-- What may stand before the root element: blanks, and a prolog that goes up to the first of its end
marks. -/
inductive Opening : List Char → Prop where
  | blanks {before : List Char} (hbefore : Blanks before) : Opening before
  | prolog {before inside after : List Char} (hbefore : Blanks before)
      (hinside : ¬ "?>".toList <:+: inside) (hafter : Blanks after) :
      Opening (before ++ ("<?".toList ++ (inside ++ ("?>".toList ++ after))))

/-- A text that is a document, and what it sets. -/
inductive DocumentText : (text : List Char) → (settings : List (String × String)) → Prop where
  | intro {opening root after : List Char} {settings : List (String × String)}
      (hopening : Opening opening) (hroot : RootText root settings) (hafter : Blanks after) :
      DocumentText (opening ++ (root ++ after)) settings

/-! ## §2 Names -/

theorem isElementName_iff : isElementName name ↔ IsName name := by
  cases name with
  | nil => simp [isElementName, IsName]
  | cons c rest => simp [isElementName, IsName, or_assoc]

theorem checkElementName_of_isName (h : IsName name) : checkElementName name = .ok () :=
  (checkElementName_eq_ok_iff name).mpr (isElementName_iff.mpr h)

/-- No name has a blank in it. -/
theorem IsName.isBlank_eq_false (h : IsName name) : ∀ c ∈ name, isBlank c = false := by
  intro c hc
  rw [Bool.eq_false_iff]
  intro hblank
  have hmarks : c ≠ '_' ∧ c ≠ '-' ∧ c ≠ '.' := by
    refine ⟨?_, ?_, ?_⟩ <;> rintro rfl <;> exact absurd hblank (by decide)
  exact not_mem_of_isElementName (isElementName_iff.mpr h) (isLetterOrNumeral_of_isBlank hblank)
    hmarks hc

/-- The end tag of a name begins with a bracket and has no other opening bracket. -/
theorem IsName.lt_not_mem (h : IsName name) : '<' ∉ '/' :: (name ++ ['>']) := by
  have hname : '<' ∉ name :=
    not_mem_of_isElementName (isElementName_iff.mpr h) (by decide +kernel) (by decide)
  simp [hname]

/-! ## §3 One field -/

/-- An element of a field begins unlike any end tag. -/
theorem FieldText.exists_cons (h : FieldText text name value) :
    ∃ c t, text = '<' :: c :: t ∧ c ≠ '/' := by
  have hslash : ∀ {c : Char} {rest : List Char}, IsName (c :: rest) → c ≠ '/' := by
    rintro c rest h rfl
    exact slash_not_mem_of_isElementName (isElementName_iff.mpr h) List.mem_cons_self
  cases h with
  | empty hname hblanks =>
    obtain ⟨c, rest, rfl, -⟩ := id hname
    exact ⟨c, _, rfl, hslash hname⟩
  | full hname hraw hvalue =>
    obtain ⟨c, rest, rfl, -⟩ := id hname
    exact ⟨c, _, rfl, hslash hname⟩

/-- What is read as a field is the element of a field. -/
theorem fieldText_of_readField {e : ParsedField} (h : readField s = .ok e) :
    ∃ text, s = text ++ e.rest ∧ FieldText text e.name e.value := by
  unfold readField at h
  split at h
  · cases h
  next s' hs =>
  split at h
  · cases h
  next tag body htag =>
  have hs : s = '<' :: (tag ++ '>' :: body) := by
    rw [afterMark?_eq_some_iff.mp hs, eq_of_splitAtMark? htag]
    rfl
  split at h
  · next hlast =>
    obtain ⟨_, hname, hfield⟩ := exists_of_bind_eq_ok h
    cases hfield
    -- The tag is the name, blanks and the slash.
    obtain ⟨blanks, hblanks, hall⟩ := exists_trimEnd_append tag.dropLast
    have hsplit : tag = trimEnd tag.dropLast ++ (blanks ++ ['/']) := by
      rw [← List.append_assoc, ← hblanks, List.dropLast_append_getLast? '/' hlast]
    refine ⟨'<' :: (trimEnd tag.dropLast ++ (blanks ++ ['/', '>'])), ?_, .empty ?_ hall⟩
    · rw [hs]
      conv_lhs => rw [hsplit]
      simp
    · exact isElementName_iff.mp ((checkElementName_eq_ok_iff _).mp hname)
  · obtain ⟨_, hname, hfield⟩ := exists_of_bind_eq_ok h
    have hname : IsName tag := isElementName_iff.mp ((checkElementName_eq_ok_iff _).mp hname)
    split at hfield
    · cases hfield
    next raw rest hend =>
    obtain ⟨value, hvalue, hfield⟩ := exists_of_bind_eq_ok hfield
    cases hfield
    obtain ⟨hbody, hraw⟩ := (splitAtMark?_eq_some_iff hname.lt_not_mem).mp hend
    refine ⟨_, ?_, .full hname hraw (Entity.unescape_eq_ok_iff.mp hvalue)⟩
    rw [hs, hbody]
    simp [startTag, endTag]

/-- The element of a field is read as this field, whatever stands after it. -/
theorem readField_of_fieldText (h : FieldText text name value) (rest : List Char) :
    readField (text ++ rest) = .ok ⟨name, value, rest⟩ := by
  cases h with
  | @empty _ blanks hname hblanks =>
    have htag : '>' ∉ name ++ (blanks ++ ['/']) := by
      have hblank : '>' ∉ blanks := fun hmem => absurd (hblanks _ hmem) (by decide)
      simp [gt_not_mem_of_isElementName (isElementName_iff.mpr hname), hblank]
    have htext : '<' :: (name ++ (blanks ++ ['/', '>'])) ++ rest =
        ['<'] ++ ((name ++ (blanks ++ ['/'])) ++ (['>'] ++ rest)) := by simp
    have hlast : (name ++ (blanks ++ ['/'])).getLast? = some '/' := by
      rw [← List.append_assoc, List.getLast?_concat]
    have hdrop : trimEnd (name ++ (blanks ++ ['/'])).dropLast = name := by
      rw [← List.append_assoc, List.dropLast_concat]
      exact trimEnd_append_of_none hname.isBlank_eq_false hblanks
    rw [htext, readField, afterMark?_append]
    simp only [splitAtMark?_append htag, hlast, ↓reduceIte, hdrop,
      checkElementName_of_isName hname]
    rfl
  | @full _ raw _ hname hraw hvalue =>
    have htext : startTag name ++ (raw ++ endTag name) ++ rest =
        ['<'] ++ (name ++ (['>'] ++ (raw ++ (endTag name ++ rest)))) := by
      simp [startTag]
    have hlast : ¬ name.getLast? = some '/' := fun h =>
      slash_not_mem_of_isElementName (isElementName_iff.mpr hname) (List.mem_of_getLast? h)
    have hend : splitAtMark? (endTag name) (raw ++ (endTag name ++ rest)) = some (raw, rest) :=
      (splitAtMark?_eq_some_iff hname.lt_not_mem).mpr ⟨rfl, hraw⟩
    rw [htext, readField, afterMark?_append]
    simp only [splitAtMark?_append (gt_not_mem_of_isElementName (isElementName_iff.mpr hname)),
      hlast, ↓reduceIte, checkElementName_of_isName hname, hend,
      Entity.unescape_eq_ok_iff.mpr hvalue]
    rfl

/-! ## §4 The fields -/

theorem checkEnd_eq_ok_iff : checkEnd rest = .ok () ↔ Blanks rest := by
  simp [checkEnd, Blanks]

theorem trimStart_of_blanks (h : Blanks blanks) (s : List Char) :
    trimStart (blanks ++ '<' :: s) = '<' :: s := by
  rw [trimStart_append h, trimStart_cons_lt]

/-- The settings that were read are those that the elements stand for. -/
theorem fieldTexts_of_readFields {doc doc' : Document} (h : readFields doc s = .ok doc') :
    ∃ texts settings blanks after,
      s = texts ++ (blanks ++ (endTag rootName ++ after)) ∧ FieldTexts texts settings ∧
        Blanks blanks ∧ Blanks after ∧
        doc' = settings.foldl (fun doc setting => doc.insert setting.1 setting.2) doc := by
  fun_induction readFields doc s with
  | case1 doc s rest hend =>
    obtain ⟨_, hcheck, rfl⟩ := exists_of_map_eq_ok h
    obtain ⟨blanks, hs, hblanks⟩ := exists_append_trimStart s
    rw [afterMark?_eq_some_iff.mp hend] at hs
    exact ⟨[], [], blanks, rest, hs, .nil, hblanks, checkEnd_eq_ok_iff.mp hcheck, rfl⟩
  | case2 doc s hend cause hfield => cases h
  | case3 doc s hend e hfield ih =>
    obtain ⟨texts, settings, blanks, after, hrest, htexts, hblanks, hafter, rfl⟩ := ih h
    obtain ⟨before, hs, hbefore⟩ := exists_append_trimStart s
    obtain ⟨text, htext, hfieldText⟩ := fieldText_of_readField hfield
    refine ⟨_, _, blanks, after, ?_, .cons hbefore hfieldText htexts, hblanks, hafter, rfl⟩
    rw [hs, htext, hrest]
    simp only [List.append_assoc]

/-- The elements of fields are read as the settings that they stand for. -/
theorem readFields_of_fieldTexts (h : FieldTexts texts settings) (hblanks : Blanks blanks)
    {after : List Char} (hafter : Blanks after) (doc : Document) :
    readFields doc (texts ++ (blanks ++ (endTag rootName ++ after))) =
      .ok (settings.foldl (fun doc setting => doc.insert setting.1 setting.2) doc) := by
  induction h generalizing doc with
  | nil =>
    have hend : afterMark? (endTag rootName) (trimStart (blanks ++ (endTag rootName ++ after))) =
        some after := by
      rw [show endTag rootName ++ after = '<' :: ("/xul>".toList ++ after) from rfl,
        trimStart_of_blanks hblanks]
      exact afterMark?_append (endTag rootName) after
    rw [readFields, List.nil_append, hend]
    simp only [checkEnd_eq_ok_iff.mpr hafter, Except.map, List.foldl_nil]
  | @cons before text name value texts settings hbefore hfield hfields ih =>
    obtain ⟨c, t, htext, hc⟩ := hfield.exists_cons
    have htrim : trimStart (before ++ (text ++ texts) ++ (blanks ++ (endTag rootName ++ after))) =
        text ++ (texts ++ (blanks ++ (endTag rootName ++ after))) := by
      rw [List.append_assoc, List.append_assoc, htext]
      exact trimStart_of_blanks hbefore _
    have hend : afterMark? (endTag rootName)
        (text ++ (texts ++ (blanks ++ (endTag rootName ++ after)))) = none := by
      simp [htext, endTag, afterMark?, Ne.symm hc]
    have hread := readField_of_fieldText hfield (texts ++ (blanks ++ (endTag rootName ++ after)))
    rw [readFields, htrim, hend]
    dsimp only
    split
    · next herror => cases hread.symm.trans herror
    · next e hok =>
      cases hread.symm.trans hok
      exact ih _

/-! ## §5 The document -/

namespace Document

/-- A prolog goes up to the first of its end marks. -/
theorem splitAtMark?_prolog_iff {inside : List Char} :
    splitAtMark? "?>".toList s = some (inside, rest) ↔
      s = inside ++ ("?>".toList ++ rest) ∧ ¬ "?>".toList <:+: inside :=
  @splitAtMark?_eq_some_iff '?' ['>'] s inside rest (by decide)

/-- What is skipped before the root element is what may stand there. -/
theorem opening_of_skipProlog (h : skipProlog (trimStart s) = .ok rest) :
    ∃ opening, s = opening ++ rest ∧ Opening opening := by
  obtain ⟨before, hs, hbefore⟩ := exists_append_trimStart s
  unfold skipProlog at h
  split at h
  · cases h
    exact ⟨before, hs, .blanks hbefore⟩
  next s' hopen =>
  split at h
  · cases h
  next inside rest' hclose =>
  cases h
  obtain ⟨hs', hinside⟩ := splitAtMark?_prolog_iff.mp hclose
  obtain ⟨after, hrest, hafter⟩ := exists_append_trimStart rest'
  refine ⟨_, ?_, .prolog hbefore hinside hafter⟩
  rw [hs, afterMark?_eq_some_iff.mp hopen, hs']
  conv_lhs => rw [hrest]
  simp

/-- What may stand before the root element is skipped. -/
theorem skipProlog_of_opening {opening : List Char} (h : Opening opening) (rest : List Char) :
    skipProlog (trimStart (opening ++ ("<xul".toList ++ rest))) = .ok ("<xul".toList ++ rest) := by
  cases h with
  | blanks hbefore =>
    rw [show "<xul".toList ++ rest = '<' :: ("xul".toList ++ rest) from rfl,
      trimStart_of_blanks hbefore, skipProlog]
    rfl
  | @prolog before inside after hbefore hinside hafter =>
    have htext : before ++ ("<?".toList ++ (inside ++ ("?>".toList ++ after))) ++
        ("<xul".toList ++ rest) = before ++ '<' :: ('?' :: (inside ++ ("?>".toList ++
          (after ++ ("<xul".toList ++ rest))))) := by simp
    have hclose : splitAtMark? "?>".toList
        (inside ++ ("?>".toList ++ (after ++ ("<xul".toList ++ rest)))) =
          some (inside, after ++ ("<xul".toList ++ rest)) :=
      splitAtMark?_prolog_iff.mpr ⟨rfl, hinside⟩
    have htrim : trimStart (after ++ ("<xul".toList ++ rest)) = "<xul".toList ++ rest :=
      trimStart_of_blanks hafter _
    rw [htext, trimStart_of_blanks hbefore, skipProlog]
    simp only [show "<?".toList = ['<', '?'] from rfl, afterMark?, ↓reduceIte, hclose, htrim]

theorem read_of_empty {opening after : List Char} (hopening : Opening opening)
    (hafter : Blanks after) : read (opening ++ ("<xul/>".toList ++ after)) = .ok ∅ := by
  have hskip := skipProlog_of_opening hopening ("/>".toList ++ after)
  have hroot : "<xul".toList ++ ("/>".toList ++ after) = "<xul/>".toList ++ after := rfl
  rw [hroot] at hskip
  simp only [read, hskip, bind, Except.bind, afterMark?_append, checkEnd_eq_ok_iff.mpr hafter]
  rfl

theorem read_of_full {opening after : List Char} (hopening : Opening opening)
    (hfields : FieldTexts texts settings) (hblanks : Blanks blanks) (hafter : Blanks after) :
    read (opening ++ ("<xul>".toList ++ (texts ++ (blanks ++ "</xul>".toList)) ++ after)) =
      .ok (ofSettings settings) := by
  have hroot : "<xul>".toList ++ (texts ++ (blanks ++ "</xul>".toList)) ++ after =
      startTag rootName ++ (texts ++ (blanks ++ (endTag rootName ++ after))) := by
    simp [startTag, endTag, rootName]
  have hskip := skipProlog_of_opening hopening
    ('>' :: (texts ++ (blanks ++ (endTag rootName ++ after))))
  have hnotEmpty : afterMark? "<xul/>".toList
      (startTag rootName ++ (texts ++ (blanks ++ (endTag rootName ++ after)))) = none := by
    simp [startTag, rootName, afterMark?]
  rw [show "<xul".toList ++ '>' :: (texts ++ (blanks ++ (endTag rootName ++ after))) =
    startTag rootName ++ (texts ++ (blanks ++ (endTag rootName ++ after))) from rfl] at hskip
  simp only [hroot, read, hskip, bind, Except.bind, hnotEmpty, afterMark?_append]
  exact readFields_of_fieldTexts hfields hblanks hafter ∅

/-- **The reader accepts the texts of the grammar, and no others.** -/
theorem read_eq_ok_iff {doc : Document} :
    read s = .ok doc ↔ ∃ settings, DocumentText s settings ∧ doc = ofSettings settings := by
  constructor
  · intro h
    obtain ⟨rest, hskip, hroot⟩ := exists_of_bind_eq_ok h
    obtain ⟨opening, rfl, hopening⟩ := opening_of_skipProlog hskip
    split at hroot
    · next after hempty =>
      obtain ⟨_, hcheck, rfl⟩ := exists_of_map_eq_ok hroot
      rw [afterMark?_eq_some_iff.mp hempty]
      exact ⟨[], .intro hopening .empty (checkEnd_eq_ok_iff.mp hcheck), rfl⟩
    · split at hroot
      · cases hroot
      next body hstart =>
      obtain ⟨texts, settings, blanks, after, hbody, htexts, hblanks, hafter, rfl⟩ :=
        fieldTexts_of_readFields hroot
      refine ⟨settings, ?_, rfl⟩
      have hroot : rest = "<xul>".toList ++ (texts ++ (blanks ++ "</xul>".toList)) ++ after := by
        rw [afterMark?_eq_some_iff.mp hstart, hbody]
        simp [startTag, endTag, rootName]
      rw [hroot]
      exact .intro hopening (.full htexts hblanks) hafter
  · rintro ⟨settings, ⟨hopening, hroot, hafter⟩, rfl⟩
    cases hroot with
    | empty => exact read_of_empty hopening hafter
    | full hfields hblanks => exact read_of_full hopening hfields hblanks hafter

/-- What settings say of a document decides all of it. -/
theorem Holds.eq_ofSettings {doc : Document} (h : doc.Holds settings) :
    doc = ofSettings settings := by
  have hfields : ∀ {d : Document}, d.Holds settings → d.fields =
      (settings.map (·.1)).eraseDups.map fun key => (key, (lastValue? settings key).getD "") := by
    intro d hd
    have hself : ∀ field ∈ d.fields, (field.1, (lastValue? settings field.1).getD "") = field := by
      rintro ⟨key, value⟩ hfield
      simp [(hd.values key value).mp hfield]
    calc d.fields
        = d.fields.map fun field => (field.1, (lastValue? settings field.1).getD "") := by
          rw [List.map_congr_left hself, List.map_id']
      _ = (d.fields.map (·.1)).map fun key => (key, (lastValue? settings key).getD "") := by
          rw [List.map_map]
          rfl
      _ = _ := by rw [hd.order]
  have heq := (hfields h).trans (hfields (holds_ofSettings settings)).symm
  cases doc
  exact congrArg Document.mk heq

/-- **A document is read from the texts of the grammar and from no others**: from each of them the
document that holds what the text sets, where it sets a field first and to what it sets it last.  Any
other text is refused as malformed. -/
theorem reads_grammar :
    (∀ text doc, ofText text = .ok doc ↔
      ∃ settings, DocumentText text.toList settings ∧ doc.Holds settings) ∧
    ∀ text, (∃ cause, ofText text = .error (.malformed cause)) ↔
      ¬ ∃ settings, DocumentText text.toList settings := by
  refine ⟨fun text doc => ?_, fun text => ?_⟩
  · constructor
    · intro h
      obtain ⟨settings, htext, rfl⟩ := read_eq_ok_iff.mp (eq_ok_of_mapError_eq_ok h)
      exact ⟨settings, htext, holds_ofSettings settings⟩
    · rintro ⟨settings, htext, hholds⟩
      rw [ofText, read_eq_ok_iff.mpr ⟨settings, htext, hholds.eq_ofSettings⟩]
      rfl
  · cases hread : read text.toList with
    | error cause =>
      have hnone : ¬ ∃ settings, DocumentText text.toList settings := by
        rintro ⟨settings, htext⟩
        cases hread.symm.trans (read_eq_ok_iff.mpr ⟨settings, htext, rfl⟩)
      have herror : ofText text = .error (.malformed cause) := by
        rw [ofText, hread]
        rfl
      exact iff_of_true ⟨cause, herror⟩ hnone
    | ok doc =>
      obtain ⟨settings, htext, -⟩ := read_eq_ok_iff.mp hread
      have hnoerror : ¬ ∃ cause, ofText text = .error (.malformed cause) := by
        rintro ⟨cause, herror⟩
        rw [ofText, hread] at herror
        cases herror
      exact iff_of_false hnoerror (not_not_intro ⟨settings, htext⟩)

end Document

end RemoteUi.Wire
