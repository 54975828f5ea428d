import RemoteUi.Client.Flag
import RemoteUi.Proofs.Text.Decimals

/-!
# Which flags are off

A flag is off if nothing is sent for it, and of the texts those switch it off that say nothing or say
zero.  A numeral in another base says zero by its digits alone, a decimal literal by the number that
it denotes: what is left of it in double precision is zero.

* §1 the texts for off;
* §2 the theorem.
-/

namespace RemoteUi

open RemoteUi.Text

/-! ## §1 The texts -/

/-- A text that switches a flag off, without the blanks around it. -/
inductive OffText : (s : List Char) → Prop where
  | empty : OffText []
  /-- Zeros in another base. -/
  | radix {mark zeros : List Char} (hmark : mark ∈ radixMarks) (hne : zeros ≠ [])
      (hzeros : ∀ c ∈ zeros, c = '0') : OffText (mark ++ zeros)
  /-- A decimal literal up to half the least positive double, or down to its negative.  What begins
  like a numeral in another base is none. -/
  | decimal {s : List Char} {v : ℚ} (hmarks : ∀ mark ∈ radixMarks, ¬ mark <+: s)
      (hv : DecimalText s v) (hsmall : |v| ≤ 2 ^ (-1075 : Int)) : OffText s

/-- A value that switches a flag off: none, or a text for off with blanks around it that do not
count. -/
def IsOff : (value : Option String) → Prop
  | none => True
  | some value => ∃ before s after, value.toList = before ++ (s ++ after) ∧
      (∀ c ∈ before, isBlank c) ∧ (∀ c ∈ after, isBlank c) ∧ OffText s

variable {s digits : List Char}

/-- At most one of the marks begins a text, since they are of one length. -/
theorem findSome?_radixMarks_eq_some_iff :
    radixMarks.findSome? (fun mark => afterMark? mark s) = some digits ↔
      ∃ mark ∈ radixMarks, s = mark ++ digits := by
  have hlength : ∀ mark ∈ radixMarks, mark.length = 2 := by decide
  constructor
  · intro h
    obtain ⟨mark, hmark, hdigits⟩ := List.exists_of_findSome?_eq_some h
    exact ⟨mark, hmark, afterMark?_eq_some_iff.mp hdigits⟩
  · rintro ⟨mark, hmark, hs⟩
    cases hfind : radixMarks.findSome? fun mark => afterMark? mark s with
    | none =>
      have hnone := List.findSome?_eq_none_iff.mp hfind mark hmark
      rw [hs, afterMark?_append] at hnone
      cases hnone
    | some found =>
      obtain ⟨other, hother, hfound⟩ := List.exists_of_findSome?_eq_some hfind
      have heq := hs.symm.trans (afterMark?_eq_some_iff.mp hfound)
      have hlen : mark.length = other.length := (hlength mark hmark).trans (hlength other hother).symm
      rw [(List.append_inj heq hlen).2]

theorem findSome?_radixMarks_eq_none_iff :
    radixMarks.findSome? (fun mark => afterMark? mark s) = none ↔
      ∀ mark ∈ radixMarks, ¬ mark <+: s := by
  rw [List.findSome?_eq_none_iff]
  refine forall₂_congr fun mark _ => ?_
  rw [Option.eq_none_iff_forall_ne_some]
  simp only [ne_eq, afterMark?_eq_some_iff, ← not_exists]
  exact not_congr (exists_congr fun _ => eq_comm)

/-- **Nothing and the numerals for zero are the texts for off.** -/
theorem isEmpty_or_isZeroNumeral_iff : (s.isEmpty || isZeroNumeral s) = true ↔ OffText s := by
  rw [Bool.or_eq_true, List.isEmpty_iff, isZeroNumeral]
  constructor
  · rintro (rfl | h)
    · exact .empty
    split at h
    · next digits hfind =>
      obtain ⟨mark, hmark, rfl⟩ := findSome?_radixMarks_eq_some_iff.mp hfind
      obtain ⟨hne, hzeros⟩ := Bool.and_eq_true_iff.mp h
      exact .radix hmark (by simpa using hne) (by simpa using hzeros)
    · next hfind =>
      cases hread : DecimalLiteral.read? s with
      | none => simp [hread] at h
      | some d =>
        rw [hread] at h
        exact .decimal (findSome?_radixMarks_eq_none_iff.mp hfind)
          (DecimalLiteral.decimalText_of_read? hread) (DecimalLiteral.isNegligible_iff.mp h)
  · intro h
    cases h with
    | empty => exact .inl rfl
    | @radix mark zeros hmark hne hzeros =>
      refine .inr ?_
      rw [findSome?_radixMarks_eq_some_iff.mpr ⟨mark, hmark, rfl⟩]
      simpa [hne] using hzeros
    | decimal hmarks hv hsmall =>
      obtain ⟨d, hread, rfl⟩ := DecimalLiteral.exists_read?_of_decimalText hv
      refine .inr ?_
      rw [findSome?_radixMarks_eq_none_iff.mpr hmarks, hread]
      exact DecimalLiteral.isNegligible_iff.mpr hsmall

/-- No blank is part of a text for off. -/
theorem OffText.isBlank_eq_false (h : OffText s) : ∀ c ∈ s, isBlank c = false := by
  cases h with
  | empty => exact fun _ hc => absurd hc List.not_mem_nil
  | radix hmark _ hzeros =>
    have hmarks : (radixMarks.all fun mark => mark.all fun c => !isBlank c) = true := by decide
    simp only [List.all_eq_true, Bool.not_eq_true'] at hmarks
    intro c hc
    rcases List.mem_append.mp hc with hc | hc
    · exact hmarks _ hmark c hc
    · rw [hzeros c hc]
      decide
  | decimal _ hv _ => exact hv.isBlank_eq_false

/-- A flag is off by its value without the blanks around it. -/
theorem flagIsOn_some_eq_false_iff {value : String} :
    flagIsOn (some value) = false ↔ OffText (trim value.toList) := by
  rw [← isEmpty_or_isZeroNumeral_iff, flagIsOn, Bool.not_eq_false']

/-! ## §2 The theorem -/

/-- **Exactly the values for off switch a flag off**: a flag that is off is no attribute, and any other
flag is one with the value `true`.  The bound for decimal literals is the one of double precision: up
to it a number is rounded to zero, and beyond it to something else. -/
theorem flagIsOn_eq_false_iff (value : Option String) :
    (flagIsOn value = false ↔ IsOff value) ∧
    (flagAttribute? value = none ↔ IsOff value) ∧
    (flagAttribute? value = some "true" ↔ ¬ IsOff value) ∧
    ∀ v : ℚ, Double.Rounds v Double.zero ↔ |v| ≤ 2 ^ (-1075 : Int) := by
  have hoff : flagIsOn value = false ↔ IsOff value := by
    cases value with
    | none => exact iff_of_true rfl trivial
    | some value =>
      rw [flagIsOn_some_eq_false_iff]
      constructor
      · intro h
        obtain ⟨before, after, hvalue, hbefore, hafter⟩ := exists_append_trim_append value.toList
        exact ⟨before, _, after, hvalue, hbefore, hafter, h⟩
      · rintro ⟨before, s, after, hvalue, hbefore, hafter, h⟩
        rwa [hvalue, trim_append_append hbefore h.isBlank_eq_false hafter]
  refine ⟨hoff, ?_, ?_, fun _ => Double.rounds_zero_iff⟩
  · rw [← hoff, flagAttribute?]
    cases flagIsOn value <;> simp
  · rw [← hoff, flagAttribute?]
    cases flagIsOn value <;> simp

/-- Half the least positive double is near `2.47e-324`; a numeral in another base takes no sign. -/
example : flagIsOn (some " 2e-324 ") = false ∧ flagIsOn (some "3e-324") = true ∧
    flagIsOn (some "-0x0") = true := by
  decide +kernel

end RemoteUi
