import Mathlib.Data.List.Infix
import RemoteUi.Proofs.Text.Spelling
import RemoteUi.Proofs.Wire.RequestCodec

/-!
# The spellings of a text

A text has many spellings as entity text: each character stands for itself, for a named entity or
for a reference by code point.  The reader finds in an entity text whatever it is a spelling of.

* §1 the names of a character;
* §2 spellings;
* §3 entity texts that break off.
-/

namespace RemoteUi.Wire.Entity

open RemoteUi.Text

variable {name raw value : List Char} {c : Char}

/-! ## §1 Names of a character -/

/-- What may stand between an ampersand and a semicolon for a character. -/
inductive Names : List Char → Char → Prop where
  | amp : Names "amp".toList '&'
  | lt : Names "lt".toList '<'
  | gt : Names "gt".toList '>'
  | quot : Names "quot".toList '"'
  | apos : Names "apos".toList '\''
  /-- A plus sign may stand before the digits. -/
  | decimal {digits : List Char} {c : Char} (h : Unsigned 10 digits c.toNat) :
      Names ('#' :: digits) c
  | hex {mark : Char} {digits : List Char} {c : Char} (hmark : mark = 'x' ∨ mark = 'X')
      (h : Unsigned 16 digits c.toNat) : Names ('#' :: mark :: digits) c

/-- A character is found under its code point, and under no other number. -/
theorem charOfCode?_eq_some_iff {code : Nat} : charOfCode? code = some c ↔ c.toNat = code := by
  constructor
  · intro h
    by_cases hvalid : code.isValidChar
    · rw [charOfCode?, dif_pos hvalid] at h
      cases h
      rfl
    · rw [charOfCode?, dif_neg hvalid] at h
      cases h
  · rintro rfl
    have hvalid : c.toNat.isValidChar := c.valid
    rw [charOfCode?, dif_pos hvalid]
    rfl

theorem bind_charOfCode?_eq_some_iff {base : Nat} {digits : List Char} :
    (readBelow? base UInt32.size digits).bind charOfCode? = some c ↔
      Unsigned base digits c.toNat := by
  simp only [Option.bind_eq_some_iff, readBelow?_eq_some_iff, charOfCode?_eq_some_iff]
  constructor
  · rintro ⟨code, ⟨h, -⟩, rfl⟩
    exact h
  · -- No code point needs more than 32 bits.
    exact fun h => ⟨_, ⟨h, c.val.toNat_lt⟩, rfl⟩

/-- The letters that announce hexadecimal digits are no decimal digits. -/
theorem not_unsigned_ten {mark : Char} {digits : List Char} {n : Nat}
    (hmark : mark = 'x' ∨ mark = 'X') : ¬ Unsigned 10 (mark :: digits) n := by
  have hnone : digitValue? 10 mark = none ∧ mark ≠ '+' := by
    rcases hmark with rfl | rfl <;> decide
  rintro (⟨-, values, hvalues, -⟩ | ⟨_, h, -⟩)
  · cases values with
    | nil => simp at hvalues
    | cons value values => simp [hnone.1] at hvalues
  · exact hnone.2 (List.cons.inj h).1

theorem names_of_charOfReference? (h : charOfReference? name = some c) : Names name c := by
  unfold charOfReference? at h
  split at h
  · exact .hex (.inl rfl) (bind_charOfCode?_eq_some_iff.mp h)
  · exact .hex (.inr rfl) (bind_charOfCode?_eq_some_iff.mp h)
  · exact .decimal (bind_charOfCode?_eq_some_iff.mp h)
  · cases h

theorem charOfReference?_decimal {digits : List Char} (h : Unsigned 10 digits c.toNat) :
    charOfReference? ('#' :: digits) = some c := by
  have hne : ∀ {mark}, mark = 'x' ∨ mark = 'X' → ∀ rest, '#' :: digits ≠ '#' :: mark :: rest := by
    rintro mark hmark rest heq
    cases heq
    exact not_unsigned_ten hmark h
  unfold charOfReference?
  split
  · next heq => exact absurd heq (hne (.inl rfl) _)
  · next heq => exact absurd heq (hne (.inr rfl) _)
  · next heq =>
    cases heq
    exact bind_charOfCode?_eq_some_iff.mpr h
  · next hnone => exact absurd rfl (hnone digits)

theorem charOfReference?_hex {mark : Char} {digits : List Char} (hmark : mark = 'x' ∨ mark = 'X')
    (h : Unsigned 16 digits c.toNat) : charOfReference? ('#' :: mark :: digits) = some c := by
  rcases hmark with rfl | rfl <;> exact bind_charOfCode?_eq_some_iff.mpr h

/-- **An entity denotes the character that it is a name of.** -/
theorem charOfName?_eq_some_iff : charOfName? name = some c ↔ Names name c := by
  constructor
  · intro h
    unfold charOfName? at h
    split at h
    · next heq =>
      cases h
      exact heq ▸ .amp
    split at h
    · next heq =>
      cases h
      exact heq ▸ .lt
    split at h
    · next heq =>
      cases h
      exact heq ▸ .gt
    split at h
    · next heq =>
      cases h
      exact heq ▸ .quot
    split at h
    · next heq =>
      cases h
      exact heq ▸ .apos
    exact names_of_charOfReference? h
  · -- No reference is one of the five words, since these do not start with its mark.
    have hreference : ∀ s, charOfName? ('#' :: s) = charOfReference? ('#' :: s) := by
      intro s
      simp [charOfName?]
    intro h
    cases h with
    | amp | lt | gt | quot | apos => decide
    | decimal h =>
      rw [hreference]
      exact charOfReference?_decimal h
    | hex hmark h =>
      rw [hreference]
      exact charOfReference?_hex hmark h

theorem semicolon_not_mem_of_unsigned {base n : Nat} {digits : List Char}
    (h : Unsigned base digits n) : ';' ∉ digits := by
  rcases h with h | ⟨digits, rfl, h⟩
  · exact fun hmem => absurd (h.isAlphanum _ hmem) (by decide)
  · intro hmem
    exact absurd (h.isAlphanum _ ((List.mem_cons.mp hmem).resolve_left (by decide))) (by decide)

/-- No name of a character has the semicolon in it that ends an entity. -/
theorem Names.semicolon_not_mem (h : Names name c) : ';' ∉ name := by
  cases h with
  | amp | lt | gt | quot | apos => decide
  | decimal h =>
    rw [List.mem_cons, not_or]
    exact ⟨by decide, semicolon_not_mem_of_unsigned h⟩
  | hex hmark h =>
    rw [List.mem_cons, List.mem_cons, not_or, not_or]
    refine ⟨by decide, ?_, semicolon_not_mem_of_unsigned h⟩
    rcases hmark with rfl | rfl <;> decide

/-! ## §2 Spellings -/

/-- An entity text that spells a text, one character after the other. -/
inductive Spells : (raw value : List Char) → Prop where
  | nil : Spells [] []
  /-- Any character but the ampersand may stand for itself. -/
  | plain {c : Char} {raw value : List Char} (hc : c ≠ '&') (h : Spells raw value) :
      Spells (c :: raw) (c :: value)
  | entity {name : List Char} {c : Char} {raw value : List Char} (hname : Names name c)
      (h : Spells raw value) : Spells ('&' :: (name ++ ';' :: raw)) (c :: value)

/-- **The reader finds in an entity text the text that it spells**, and it refuses an entity text that
spells none. -/
theorem unescape_eq_ok_iff : unescape raw = .ok value ↔ Spells raw value := by
  constructor
  · intro h
    fun_induction unescape raw generalizing value with
    | case1 =>
      cases h
      exact .nil
    | case2 s hnone => cases h
    | case3 s name rest hsplit hname => cases h
    | case4 s name rest hsplit d hname ih =>
      obtain ⟨value, hvalue, rfl⟩ := exists_of_map_eq_ok h
      rw [eq_of_splitAtMark? hsplit]
      exact .entity (charOfName?_eq_some_iff.mp hname) (ih hvalue)
    | case5 c s hc ih =>
      obtain ⟨value, hvalue, rfl⟩ := exists_of_map_eq_ok h
      exact .plain hc (ih hvalue)
  · intro h
    induction h with
    | nil => rw [unescape]
    | plain hc _ ih =>
      rw [unescape, if_neg hc, ih]
      rfl
    | @entity name c raw value hname _ ih =>
      have hread := unescape_entity name hname.semicolon_not_mem
        (charOfName?_eq_some_iff.mpr hname) raw
      rw [List.singleton_append, ih] at hread
      exact hread

/-! ## §3 Broken entity texts -/

/-- An entity text with a first thing that is wrong with it: what stands before spells something. -/
inductive Breaks : (raw : List Char) → Malformation → Prop where
  /-- No semicolon follows the ampersand. -/
  | unterminated {before value rest : List Char} (hbefore : Spells before value)
      (hrest : ';' ∉ rest) : Breaks (before ++ '&' :: rest) .unterminatedEntity
  /-- What stands up to the next semicolon is no name of a character. -/
  | unknown {before value name rest : List Char} (hbefore : Spells before value)
      (hmark : ';' ∉ name) (hname : ∀ c, ¬ Names name c) :
      Breaks (before ++ '&' :: (name ++ ';' :: rest)) (.unknownEntity (String.ofList name))

variable {before rest : List Char} {m : Malformation}

/-- Spellings are joined to a spelling. -/
theorem Spells.append (hbefore : Spells before value) {more : List Char} (h : Spells rest more) :
    Spells (before ++ rest) (value ++ more) := by
  induction hbefore with
  | nil => exact h
  | plain hc _ ih => exact .plain hc ih
  | entity hname _ ih =>
    have hentity := Spells.entity hname ih
    simpa using hentity

/-- What breaks an entity text breaks it after a spelling, too. -/
theorem Breaks.append (hbefore : Spells before value) (h : Breaks rest m) :
    Breaks (before ++ rest) m := by
  cases h with
  | unterminated hmore hrest =>
    rw [← List.append_assoc]
    exact .unterminated (hbefore.append hmore) hrest
  | unknown hmore hmark hname =>
    rw [← List.append_assoc]
    exact .unknown (hbefore.append hmore) hmark hname

/-- After a spelling the reader goes on with what follows it. -/
theorem unescape_append (hbefore : Spells before value) (rest : List Char) :
    unescape (before ++ rest) = (unescape rest).map (value ++ ·) := by
  induction hbefore with
  | nil => cases h : unescape rest <;> simp [h, Except.map]
  | plain hc _ ih =>
    rw [List.cons_append, unescape, if_neg hc, ih]
    cases unescape rest <;> rfl
  | @entity name c raw value hname _ ih =>
    have hread := unescape_entity name hname.semicolon_not_mem
      (charOfName?_eq_some_iff.mpr hname) (raw ++ rest)
    rw [ih] at hread
    have htext : '&' :: (name ++ ';' :: raw) ++ rest = '&' :: (name ++ ([';'] ++ (raw ++ rest))) := by
      simp
    rw [htext, hread]
    cases unescape rest <;> rfl

/-- Where a semicolon is, a text can be split at it. -/
theorem semicolon_not_mem_of_splitAtMark? {s : List Char} (h : splitAtMark? [';'] s = none) :
    ';' ∉ s := by
  intro hmem
  obtain ⟨name, rest, rfl, hname⟩ := List.eq_append_cons_of_mem hmem
  cases h.symm.trans (splitAtMark?_append hname rest)

/-- **The reader faults with the first thing that is wrong with an entity text.** -/
theorem unescape_eq_error_iff : unescape raw = .error m ↔ Breaks raw m := by
  constructor
  · intro h
    fun_induction unescape raw with
    | case1 => cases h
    | case2 s hnone =>
      cases h
      exact .unterminated .nil (semicolon_not_mem_of_splitAtMark? hnone)
    | case3 s name rest hsplit hname =>
      cases h
      rw [eq_of_splitAtMark? hsplit]
      refine .unknown .nil ?_ fun c hc => ?_
      · intro hmem
        exact not_infix_of_splitAtMark? hsplit ((List.singleton_infix_iff _ _).mpr hmem)
      · rw [charOfName?_eq_some_iff.mpr hc] at hname
        cases hname
    | case4 s name rest hsplit d hname ih =>
      rw [eq_of_splitAtMark? hsplit]
      have hentity := Spells.entity (charOfName?_eq_some_iff.mp hname) .nil
      have hbreaks := Breaks.append hentity (ih (eq_error_of_map_eq_error h))
      simpa using hbreaks
    | case5 c s hc ih =>
      exact Breaks.append (.plain hc .nil) (ih (eq_error_of_map_eq_error h))
  · intro h
    cases h with
    | unterminated hbefore hrest =>
      rw [unescape_append hbefore, unescape, if_pos rfl]
      split
      · rfl
      · next hsplit =>
        rw [eq_of_splitAtMark? hsplit] at hrest
        simp at hrest
    | @unknown before value name rest hbefore hmark hname =>
      rw [unescape_append hbefore, unescape, if_pos rfl]
      have hsplit : splitAtMark? [';'] (name ++ ';' :: rest) = some (name, rest) :=
        splitAtMark?_append hmark rest
      split
      · next hnone =>
        cases hsplit.symm.trans hnone
      · next name' rest' hsome =>
        obtain ⟨rfl, rfl⟩ := Prod.mk.inj (Option.some.inj (hsplit.symm.trans hsome))
        have hnone : charOfName? name = none :=
          Option.eq_none_iff_forall_ne_some.mpr fun c hc => hname c (charOfName?_eq_some_iff.mp hc)
        rw [hnone]
        rfl

/-- **An entity text is read as what it spells, or refused for the first thing that is wrong with
it**; and every text is read from its own entity text, which has no angle brackets. -/
theorem reads_spellings (raw : List Char) :
    (∀ value, unescape raw = .ok value ↔ Spells raw value) ∧
    (∀ m, unescape raw = .error m ↔ Breaks raw m) ∧
    ((∃ m, unescape raw = .error m) ↔ ∀ value, ¬ Spells raw value) ∧
    unescape (escape raw) = .ok raw ∧ '<' ∉ escape raw ∧ '>' ∉ escape raw := by
  refine ⟨fun _ => unescape_eq_ok_iff, fun _ => unescape_eq_error_iff, ?_, unescape_escape raw,
    not_mem_escape (.inl rfl) raw, not_mem_escape (.inr rfl) raw⟩
  simp only [← unescape_eq_ok_iff]
  cases unescape raw <;> simp

end RemoteUi.Wire.Entity
