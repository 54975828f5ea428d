import Mathlib.Data.List.TakeWhile
import Mathlib.Data.Nat.Digits.Defs
import RemoteUi.Proofs.Text.Readback
import RemoteUi.Text.Blank
import RemoteUi.Text.Letter

/-!
# Spellings

What a text looks like that a reader takes, said without the reader.  A reader of numerals takes just
the digits of a number within its bounds, with the signs that it allows; a search for a mark stops
where the mark has not occurred before; and trimming takes away blanks and nothing else.

* §1 blanks;
* §2 marks;
* §3 digits and the numbers that they denote;
* §4 numerals with a sign and within bounds.
-/

namespace RemoteUi.Text

/-! ## §1 Blanks -/

section Blanks

variable {s before after : List Char}

/-- Blanks at the start are dropped. -/
theorem trimStart_append (h : ∀ c ∈ before, isBlank c) (s : List Char) :
    trimStart (before ++ s) = trimStart s :=
  List.dropWhile_append_of_pos h

/-- A text is its blanks at the start and what is left without them. -/
theorem exists_append_trimStart (s : List Char) :
    ∃ blanks, s = blanks ++ trimStart s ∧ ∀ c ∈ blanks, isBlank c :=
  ⟨s.takeWhile isBlank, List.takeWhile_append_dropWhile.symm, fun _ => List.mem_takeWhile_imp⟩

/-- A text is what is left without the blanks at its end, followed by these. -/
theorem exists_trimEnd_append (s : List Char) :
    ∃ blanks, s = trimEnd s ++ blanks ∧ ∀ c ∈ blanks, isBlank c := by
  refine ⟨(s.reverse.takeWhile isBlank).reverse, ?_, fun c hc => ?_⟩
  · rw [trimEnd, ← List.reverse_append, List.takeWhile_append_dropWhile, List.reverse_reverse]
  · exact List.mem_takeWhile_imp (List.mem_reverse.mp hc)

/-- Of blanks nothing is left. -/
theorem trimStart_eq_nil (h : ∀ c ∈ s, isBlank c) : trimStart s = [] :=
  List.dropWhile_eq_nil_iff.mpr h

/-- Of a text without blanks nothing is dropped, whatever follows it. -/
theorem trimStart_append_of_none (hs : ∀ c ∈ s, isBlank c = false) (hne : s ≠ [])
    (after : List Char) : trimStart (s ++ after) = s ++ after := by
  cases s with
  | nil => exact absurd rfl hne
  | cons c s =>
    have hc : ¬ isBlank c = true := by rw [hs c List.mem_cons_self]; exact Bool.false_ne_true
    exact List.dropWhile_cons_of_neg hc

/-- Only the blanks after a text without blanks are dropped. -/
theorem trimEnd_append_of_none (hs : ∀ c ∈ s, isBlank c = false)
    (hafter : ∀ c ∈ after, isBlank c) : trimEnd (s ++ after) = s := by
  have hreverse : s.reverse.dropWhile isBlank = s.reverse := by
    rw [List.dropWhile_eq_self_iff]
    intro hlt
    rw [hs _ (List.mem_reverse.mp (List.getElem_mem hlt))]
    exact Bool.false_ne_true
  rw [trimEnd, List.reverse_append, List.dropWhile_append_of_pos (by simpa using hafter), hreverse,
    List.reverse_reverse]

/-- **Trimming finds a text without blanks among blanks.** -/
theorem trim_append_append (hbefore : ∀ c ∈ before, isBlank c) (hs : ∀ c ∈ s, isBlank c = false)
    (hafter : ∀ c ∈ after, isBlank c) : trim (before ++ (s ++ after)) = s := by
  rw [trim, trimStart_append hbefore]
  rcases eq_or_ne s [] with rfl | hne
  · rw [List.nil_append, trimStart_eq_nil hafter]
    rfl
  · rw [trimStart_append_of_none hs hne, trimEnd_append_of_none hs hafter]

/-- What trimming takes away are blanks. -/
theorem exists_append_trim_append (s : List Char) :
    ∃ before after, s = before ++ (trim s ++ after) ∧ (∀ c ∈ before, isBlank c) ∧
      ∀ c ∈ after, isBlank c := by
  obtain ⟨before, hstart, hbefore⟩ := exists_append_trimStart s
  obtain ⟨after, hend, hafter⟩ := exists_trimEnd_append (trimStart s)
  exact ⟨before, after, by rw [trim, ← hend, ← hstart], hbefore, hafter⟩

end Blanks

/-- No code point is in both of two tables. -/
def CodeRanges.Disjoint (one other : CodeRanges) : Prop :=
  ∀ r ∈ one, ∀ r' ∈ other, r.2 < r'.1 ∨ r'.2 < r.1

theorem CodeRanges.Disjoint.has_eq_false {one other : CodeRanges} (h : one.Disjoint other) {c : Char}
    (hc : one.has c) : other.has c = false := by
  rw [Bool.eq_false_iff]
  intro hc'
  obtain ⟨r, hr, hlow, hhigh⟩ := (has_iff one c).mp hc
  obtain ⟨r', hr', hlow', hhigh'⟩ := (has_iff other c).mp hc'
  rcases h r hr r' hr' with hlt | hlt <;> omega

/-- The ASCII letters and digits. -/
def alphanumRanges : CodeRanges := [(0x30, 0x39), (0x41, 0x5A), (0x61, 0x7A)]

theorem isAlphanum_iff {c : Char} : c.isAlphanum ↔
    ((65 ≤ c.val ∧ c.val ≤ 90) ∨ (97 ≤ c.val ∧ c.val ≤ 122)) ∨ (48 ≤ c.val ∧ c.val ≤ 57) := by
  have h : c.isAlphanum = (decide (65 ≤ c.val ∧ c.val ≤ 90) ||
      (decide (97 ≤ c.val) && decide (c.val ≤ 122)) ||
      (decide (48 ≤ c.val) && decide (c.val ≤ 57))) := rfl
  simp only [h, Bool.or_eq_true, Bool.and_eq_true, decide_eq_true_eq]

theorem has_alphanumRanges {c : Char} (h : c.isAlphanum) : alphanumRanges.has c := by
  simp only [isAlphanum_iff, UInt32.le_iff_toNat_le] at h
  rw [CodeRanges.has_iff]
  rcases h with (h | h) | h
  · exact ⟨(0x41, 0x5A), by decide, h⟩
  · exact ⟨(0x61, 0x7A), by decide, h⟩
  · exact ⟨(0x30, 0x39), by decide, h⟩

/-- **No blank is a letter or a numeral.** -/
theorem isLetterOrNumeral_of_isBlank {c : Char} (h : isBlank c) : isLetterOrNumeral c = false := by
  have hletter : blankRanges.Disjoint letterRanges := by
    unfold CodeRanges.Disjoint
    decide +kernel
  have hnumeral : blankRanges.Disjoint numeralRanges := by
    unfold CodeRanges.Disjoint
    decide +kernel
  have hascii : blankRanges.Disjoint alphanumRanges := by
    unfold CodeRanges.Disjoint
    decide
  have hnot : c.isAlphanum = false := by
    rw [Bool.eq_false_iff]
    intro hc
    exact absurd (has_alphanumRanges hc) (by simp [hascii.has_eq_false h])
  obtain ⟨halpha, hdigit⟩ := Bool.or_eq_false_iff.mp (hnot : (c.isAlpha || c.isDigit) = false)
  simp only [isLetterOrNumeral, isLetter, isNumeral, halpha, hdigit, hletter.has_eq_false h,
    hnumeral.has_eq_false h, Bool.or_self]

theorem isBlank_of_isAlphanum {c : Char} (h : c.isAlphanum) : isBlank c = false := by
  rw [Bool.eq_false_iff]
  intro hblank
  have hnone := isLetterOrNumeral_of_isBlank hblank
  rw [isLetterOrNumeral_of_isAlphanum h] at hnone
  exact absurd hnone (by decide)

/-! ## §2 Marks -/

/-- A search for a mark stops at its first occurrence. -/
theorem not_infix_of_splitAtMark? {m : Char} {mark s before rest : List Char}
    (h : splitAtMark? (m :: mark) s = some (before, rest)) : ¬ m :: mark <:+: before := by
  intro hmark
  induction before generalizing s with
  | nil => simp at hmark
  | cons c before ih =>
    cases s with
    | nil => simp [splitAtMark?, afterMark?] at h
    | cons d s =>
      unfold splitAtMark? at h
      split at h
      · cases h
      next hnone =>
      obtain ⟨⟨b, r⟩, hbr, heq⟩ := Option.map_eq_some_iff.mp h
      cases heq
      rcases List.infix_cons_iff.mp hmark with ⟨t, ht⟩ | hinfix
      · -- The text would have been cut right here.
        have hstart : c :: s = m :: mark ++ (t ++ (m :: mark ++ r)) := by
          rw [eq_of_splitAtMark? hbr, ← List.append_assoc (m :: mark), ht]
          rfl
        rw [hstart, afterMark?_append] at hnone
        cases hnone
      · exact ih hbr hinfix

/-- A mark that begins with a character that it does not go on with overlaps with no other occurrence
of it. -/
theorem afterMark?_eq_none_of_not_infix {m c : Char} {mark before rest : List Char} (hm : m ∉ mark)
    (hmark : ¬ m :: mark <:+: c :: before) :
    afterMark? (m :: mark) (c :: before ++ (m :: mark ++ rest)) = none := by
  rw [Option.eq_none_iff_forall_ne_some]
  intro t ht
  -- An occurrence at the start would lie in the text before, or run into the next one.
  have heq := afterMark?_eq_some_iff.mp ht
  rcases List.append_eq_append_iff.mp heq with ⟨u, hu, hrest⟩ | ⟨u, hu, -⟩
  · cases u with
    | nil =>
      rw [List.append_nil] at hu
      exact hmark (hu ▸ List.infix_rfl)
    | cons d u =>
      -- The next occurrence would begin within this one.
      have hd : m = d := (List.cons.inj hrest).1
      have hmem : d ∈ mark := by rw [(List.cons.inj hu).2]; simp
      exact hm (hd ▸ hmem)
  · exact hmark (hu ▸ (List.prefix_append _ u).isInfix)

/-- **A text is split at the first occurrence of a mark**, if the mark does not go on with the
character that it begins with. -/
theorem splitAtMark?_eq_some_iff {m : Char} {mark s before rest : List Char} (hm : m ∉ mark) :
    splitAtMark? (m :: mark) s = some (before, rest) ↔
      s = before ++ (m :: mark ++ rest) ∧ ¬ m :: mark <:+: before := by
  constructor
  · exact fun h => ⟨eq_of_splitAtMark? h, not_infix_of_splitAtMark? h⟩
  · rintro ⟨rfl, hmark⟩
    induction before with
    | nil => simp [splitAtMark?, afterMark?]
    | cons c before ih =>
      have hnone : afterMark? (m :: mark) (c :: before ++ (m :: mark ++ rest)) = none :=
        afterMark?_eq_none_of_not_infix hm hmark
      have hrest := ih fun h => hmark (h.trans (List.suffix_cons c before).isInfix)
      rw [List.cons_append] at hnone ⊢
      rw [splitAtMark?, hnone]
      dsimp only
      rw [hrest]
      rfl

/-! ## §3 Digits -/

/-- Some digits denote a number: there is at least one of them, and each counts for the base times as
much as the one after it. -/
def Denotes (base : Nat) (s : List Char) (n : Nat) : Prop :=
  s ≠ [] ∧ ∃ digits : List Nat,
    s.map (digitValue? base) = digits.map some ∧ n = Nat.ofDigits base digits.reverse

/-- Digits are read from the first to the last. -/
theorem extendNat?_eq_some_iff {base m n : Nat} {s : List Char} :
    extendNat? base m s = some n ↔ ∃ digits : List Nat,
      s.map (digitValue? base) = digits.map some ∧
        n = digits.foldl (fun n d => base * n + d) m := by
  induction s generalizing m with
  | nil =>
    constructor
    · intro h
      exact ⟨[], rfl, (Option.some.inj h).symm⟩
    · rintro ⟨digits, hdigits, rfl⟩
      obtain rfl : digits = [] := List.map_eq_nil_iff.mp hdigits.symm
      rfl
  | cons c s ih =>
    rw [extendNat?, List.map_cons]
    constructor
    · intro h
      cases hc : digitValue? base c with
      | none => simp [hc] at h
      | some d =>
        simp only [hc] at h
        obtain ⟨digits, hdigits, hn⟩ := ih.mp h
        exact ⟨d :: digits, by rw [hdigits, List.map_cons], hn⟩
    · rintro ⟨digits, hdigits, hn⟩
      cases digits with
      | nil => simp at hdigits
      | cons d digits =>
        rw [List.map_cons, List.cons.injEq] at hdigits
        simp only [hdigits.1]
        exact ih.mpr ⟨digits, hdigits.2, hn⟩

/-- **A number is read from the digits that denote it, and from nothing else.** -/
theorem readNat?_eq_some_iff {base n : Nat} {s : List Char} :
    readNat? base s = some n ↔ Denotes base s n := by
  have hfold : ∀ digits : List Nat, Nat.ofDigits base digits.reverse =
      digits.foldl (fun n d => base * n + d) 0 := by
    intro digits
    rw [Nat.ofDigits_eq_foldr, List.foldr_reverse]
    congr 1
    funext n d
    exact Nat.add_comm d (base * n)
  cases s with
  | nil => simp [readNat?, Denotes]
  | cons c s =>
    simp only [readNat?, List.isEmpty_cons, Bool.false_eq_true, if_false, Denotes, hfold,
      extendNat?_eq_some_iff, ne_eq, reduceCtorEq, not_false_eq_true, true_and]

theorem isAlphanum_of_digitValue? {base d : Nat} {c : Char} (h : digitValue? base c = some d) :
    c.isAlphanum := by
  have hc := (Option.filter_eq_some_iff.mp h).1
  rw [isAlphanum_iff]
  split at hc
  · next hrange => exact .inr hrange
  split at hc
  · next hrange =>
    exact .inl (.inr ⟨hrange.1, UInt32.le_trans hrange.2 (by decide : 'f'.val ≤ 'z'.val)⟩)
  split at hc
  · next hrange =>
    exact .inl (.inl ⟨hrange.1, UInt32.le_trans hrange.2 (by decide : 'F'.val ≤ 'Z'.val)⟩)
  · cases hc

/-- A digit is neither a sign nor a blank. -/
theorem Denotes.isAlphanum {base n : Nat} {s : List Char} (h : Denotes base s n) :
    ∀ c ∈ s, c.isAlphanum := by
  obtain ⟨-, digits, hdigits, -⟩ := h
  intro c hc
  have hmem : digitValue? base c ∈ digits.map some := hdigits ▸ List.mem_map_of_mem hc
  obtain ⟨d, -, hd⟩ := List.mem_map.mp hmem
  exact isAlphanum_of_digitValue? hd.symm

/-! ## §4 Numerals -/

/-- A numeral without sign, but for a plus sign that it may have. -/
def Unsigned (base : Nat) (s : List Char) (n : Nat) : Prop :=
  Denotes base s n ∨ ∃ digits, s = '+' :: digits ∧ Denotes base digits n

/-- **A bounded number is read from its numerals.** -/
theorem readBelow?_eq_some_iff {base bound n : Nat} {s : List Char} :
    readBelow? base bound s = some n ↔ Unsigned base s n ∧ n < bound := by
  have hplus : (readNat? base (dropPlus s) = some n) ↔ Unsigned base s n := by
    rw [readNat?_eq_some_iff, Unsigned]
    unfold dropPlus
    split
    · next digits =>
      -- A plus sign is no digit.
      have hnot : ¬ Denotes base ('+' :: digits) n := fun h =>
        absurd (h.isAlphanum '+' List.mem_cons_self) (by decide)
      simp [hnot]
    · next hne =>
      exact ⟨.inl, fun h => h.resolve_right fun ⟨digits, hs, _⟩ => hne digits hs⟩
  simp [readBelow?, Option.filter_eq_some_iff, hplus]

/-- Only a plus sign may stand before the digits. -/
theorem not_unsigned_minus {base n : Nat} {digits : List Char} :
    ¬ Unsigned base ('-' :: digits) n := by
  rintro (h | ⟨_, h, -⟩)
  · exact absurd (h.isAlphanum '-' List.mem_cons_self) (by decide)
  · exact absurd (List.cons.inj h).1 (by decide)

/-- A numeral with a sign, or without one. -/
inductive Signed : List Char → Int → Prop where
  | unsigned {s : List Char} {n : Nat} (h : Unsigned 10 s n) : Signed s n
  | negative {digits : List Char} {n : Nat} (h : Denotes 10 digits n) : Signed ('-' :: digits) (-n)

/-- **A number of 64 bits in two's complement is read from its numerals.** -/
theorem readSigned64?_eq_some_iff {s : List Char} {i : Int} :
    readSigned64? s = some i ↔ Signed s i ∧ -2 ^ 63 ≤ i ∧ i < 2 ^ 63 := by
  have hsize : (signedSize : Int) = 2 ^ 63 := rfl
  have hminus : ∀ digits, readSigned64? ('-' :: digits) = some i ↔
      ∃ n, Denotes 10 digits n ∧ n ≤ signedSize ∧ -(n : Int) = i := by
    intro digits
    simp only [← readNat?_eq_some_iff, readSigned64?]
    cases readNat? 10 digits with
    | none => simp
    | some n => by_cases hn : n ≤ signedSize <;> simp [Option.filter, hn]
  by_cases hs : ∃ digits, s = '-' :: digits
  · obtain ⟨digits, rfl⟩ := hs
    rw [hminus]
    constructor
    · rintro ⟨n, hn, hle, rfl⟩
      exact ⟨.negative hn, by omega, by omega⟩
    · rintro ⟨hsigned, hlow, -⟩
      cases hsigned with
      | negative h => exact ⟨_, h, by omega, rfl⟩
      | unsigned h => exact absurd h not_unsigned_minus
  · have hplain : readSigned64? s = (readBelow? 10 signedSize s).map Int.ofNat := by
      unfold readSigned64?
      split
      · exact absurd ⟨_, rfl⟩ hs
      · rfl
    rw [hplain]
    simp only [Option.map_eq_some_iff, readBelow?_eq_some_iff]
    constructor
    · rintro ⟨n, ⟨hn, hlt⟩, rfl⟩
      have hcast : Int.ofNat n = (n : Int) := rfl
      exact ⟨.unsigned hn, by omega, by omega⟩
    · rintro ⟨hsigned, -, hhigh⟩
      cases hsigned with
      | unsigned h => exact ⟨_, ⟨h, by omega⟩, rfl⟩
      | negative h => exact absurd ⟨_, rfl⟩ hs

/-- A text that shows an index: a numeral of 64 bits, with blanks around it that do not count. -/
def ShowsIndex (s : List Char) (index : Int) : Prop :=
  ∃ before numeral after, s = before ++ (numeral ++ after) ∧ (∀ c ∈ before, isBlank c) ∧
    (∀ c ∈ after, isBlank c) ∧ Signed numeral index ∧ -2 ^ 63 ≤ index ∧ index < 2 ^ 63

theorem Denotes.isBlank_eq_false {base n : Nat} {s : List Char} (h : Denotes base s n) :
    ∀ c ∈ s, isBlank c = false :=
  fun c hc => isBlank_of_isAlphanum (h.isAlphanum c hc)

theorem Unsigned.isBlank_eq_false {base n : Nat} {s : List Char} (h : Unsigned base s n) :
    ∀ c ∈ s, isBlank c = false := by
  rcases h with h | ⟨digits, rfl, h⟩
  · exact h.isBlank_eq_false
  · exact List.forall_mem_cons.mpr ⟨by decide, h.isBlank_eq_false⟩

/-- No blank is part of a numeral. -/
theorem Signed.isBlank_eq_false {s : List Char} {i : Int} (h : Signed s i) :
    ∀ c ∈ s, isBlank c = false := by
  cases h with
  | unsigned h => exact h.isBlank_eq_false
  | negative h => exact List.forall_mem_cons.mpr ⟨by decide, h.isBlank_eq_false⟩

/-- **An index is read from the texts that show it.** -/
theorem readSigned64?_trim_eq_some_iff {s : List Char} {index : Int} :
    readSigned64? (trim s) = some index ↔ ShowsIndex s index := by
  rw [readSigned64?_eq_some_iff]
  constructor
  · intro h
    obtain ⟨before, after, hs, hbefore, hafter⟩ := exists_append_trim_append s
    exact ⟨before, trim s, after, hs, hbefore, hafter, h⟩
  · rintro ⟨before, numeral, after, rfl, hbefore, hafter, hsigned, hbounds⟩
    rw [trim_append_append hbefore hsigned.isBlank_eq_false hafter]
    exact ⟨hsigned, hbounds⟩

/-- Integers are written in the canonical way. -/
theorem ofList_writeInt (i : Int) : String.ofList (writeInt i) = toString i := by
  cases i with
  | ofNat n => rfl
  | negSucc n =>
    show String.ofList (['-'] ++ writeNat (n + 1)) = "-" ++ (n + 1).repr
    rw [String.ofList_append]
    rfl

end RemoteUi.Text
