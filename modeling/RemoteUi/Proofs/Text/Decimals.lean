import Mathlib.Algebra.Order.Field.Power
import Mathlib.Algebra.Order.Field.Rat
import Mathlib.Algebra.Order.Ring.Abs
import Mathlib.Data.List.TakeDrop
import Mathlib.Tactic.Linarith
import Mathlib.Tactic.NormNum
import RemoteUi.Proofs.Text.Spelling
import RemoteUi.Text.DecimalLiteral

/-!
# Decimal literals and the numbers that they denote

Which texts are decimal literals is said here by a grammar, and each of them denotes a rational
number.  The reader finds the number exactly.  Which of these numbers double precision takes for
zero follows from how it rounds: to the nearest double, and to an even one if two are as near.

* §1 the grammar of literals;
* §2 reading them;
* §3 numbers close to zero;
* §4 doubles, and the numbers that are rounded to zero.
-/

namespace RemoteUi.Text

/-! ## §1 The grammar -/

/-- A sign before digits, or none, and the factor that it stands for. -/
inductive SignText : (s : List Char) → (factor : Int) → Prop where
  | none : SignText [] 1
  | plus : SignText ['+'] 1
  | minus : SignText ['-'] (-1)

/-- Digits with a point before, among or after them, or without one.  The digits after the point are
counted. -/
inductive PointText : (s digits : List Char) → (places : Nat) → Prop where
  | whole (digits : List Char) : PointText digits digits 0
  | point (whole fraction : List Char) :
      PointText (whole ++ '.' :: fraction) (whole ++ fraction) fraction.length

/-- An exponent, or none. -/
inductive ExponentText : (s : List Char) → (exponent : Int) → Prop where
  | none : ExponentText [] 0
  | some {mark : Char} {sign digits : List Char} {factor : Int} {n : Nat}
      (hmark : mark = 'e' ∨ mark = 'E') (hsign : SignText sign factor)
      (hdigits : Denotes 10 digits n) :
      ExponentText (mark :: (sign ++ digits)) (factor * n)

/-- A decimal literal and the number that it denotes.  There is at least one digit besides those of the
exponent. -/
inductive DecimalText : (s : List Char) → (value : ℚ) → Prop where
  | mk {sign body digits tail : List Char} {factor exponent : Int} {places n : Nat}
      (hsign : SignText sign factor) (hbody : PointText body digits places)
      (hdigits : Denotes 10 digits n) (htail : ExponentText tail exponent) :
      DecimalText (sign ++ (body ++ tail)) (factor * n * 10 ^ (exponent - places))

/-! ## §2 Reading -/

section Digits

variable {c : Char} {d n : Nat} {s : List Char}

/-- The digits of base ten are the ten digits. -/
theorem isDigit_of_digitValue? (h : digitValue? 10 c = some d) : c.isDigit := by
  obtain ⟨hvalue, hlt⟩ := Option.filter_eq_some_iff.mp h
  split at hvalue
  · next hrange =>
    exact Bool.and_eq_true_iff.mpr ⟨decide_eq_true hrange.1, decide_eq_true hrange.2⟩
  -- Letters count for ten or more.
  split at hvalue
  · cases hvalue
    simp at hlt
  split at hvalue
  · cases hvalue
    simp at hlt
  · cases hvalue

theorem Denotes.isDigit (h : Denotes 10 s n) : ∀ c ∈ s, c.isDigit := by
  obtain ⟨-, digits, hdigits, -⟩ := h
  intro c hc
  have hmem : digitValue? 10 c ∈ digits.map some := hdigits ▸ List.mem_map_of_mem hc
  obtain ⟨d, -, hd⟩ := List.mem_map.mp hmem
  exact isDigit_of_digitValue? hd.symm

/-- Digits are taken from the start of a text up to the first other character. -/
theorem span_isDigit_append {digits rest : List Char} (h : ∀ c ∈ digits, c.isDigit)
    (hrest : ∀ c ∈ rest.head?, c.isDigit = false) :
    (digits ++ rest).span Char.isDigit = (digits, rest) := by
  have hnone : rest.takeWhile Char.isDigit = [] ∧ rest.dropWhile Char.isDigit = rest := by
    cases rest with
    | nil => exact ⟨rfl, rfl⟩
    | cons c rest => simp [hrest c rfl]
  rw [List.span_eq_takeWhile_dropWhile, List.takeWhile_append_of_pos h,
    List.dropWhile_append_of_pos h, hnone.1, hnone.2, List.append_nil]

end Digits

namespace DecimalLiteral

/-- The factor of a number with a minus sign, or without one. -/
def factor (isNegative : Bool) : Int := if isNegative then -1 else 1

/-- The number that a literal stands for. -/
def value (d : DecimalLiteral) : ℚ := factor d.isNegative * d.mantissa * 10 ^ d.exponent

section Reading

variable {s sign rest digits body : List Char} {k exponent : Int} {v : ℚ} {d : DecimalLiteral}
  {mark : Char} {places : Nat}

/-- What is read as a sign is one. -/
theorem exists_signText (s : List Char) :
    ∃ sign, s = sign ++ (readSign s).2 ∧ SignText sign (factor (readSign s).1) := by
  unfold readSign
  split
  · exact ⟨['-'], rfl, .minus⟩
  · exact ⟨['+'], rfl, .plus⟩
  · exact ⟨[], rfl, .none⟩

/-- A sign is read before anything that does not begin with one. -/
theorem readSign_append (hsign : SignText sign k) (hrest : ∀ c ∈ rest.head?, c ≠ '-' ∧ c ≠ '+') :
    ∃ isNegative, readSign (sign ++ rest) = (isNegative, rest) ∧ k = factor isNegative := by
  cases hsign with
  | plus => exact ⟨false, rfl, rfl⟩
  | minus => exact ⟨true, rfl, rfl⟩
  | none =>
    refine ⟨false, ?_, rfl⟩
    rw [List.nil_append]
    unfold readSign
    split
    · exact absurd rfl (hrest _ rfl).1
    · exact absurd rfl (hrest _ rfl).2
    · rfl

/-- No digit is a sign. -/
theorem ne_sign_of_isDigit {c : Char} (h : c.isDigit) : c ≠ '-' ∧ c ≠ '+' := by
  constructor <;> rintro rfl <;> exact absurd h (by decide)

theorem readExponent?_cons (hmark : mark = 'e' ∨ mark = 'E') (s : List Char) :
    readExponent? (mark :: s) =
      (readNat? 10 (readSign s).2).map fun n : Nat => factor (readSign s).1 * n := by
  rw [readExponent?, if_pos hmark]
  obtain ⟨isNegative, digits⟩ := readSign s
  dsimp only
  cases readNat? 10 digits with
  | none => rfl
  | some n => cases isNegative <;> simp [factor]

/-- **An exponent is read from its texts.** -/
theorem readExponent?_eq_some_iff : readExponent? s = some exponent ↔ ExponentText s exponent := by
  constructor
  · intro h
    cases s with
    | nil =>
      cases h
      exact .none
    | cons mark s =>
      by_cases hmark : mark = 'e' ∨ mark = 'E'
      · rw [readExponent?_cons hmark] at h
        obtain ⟨n, hn, rfl⟩ := Option.map_eq_some_iff.mp h
        obtain ⟨sign, hs, hsign⟩ := exists_signText s
        have htext := ExponentText.some hmark hsign (readNat?_eq_some_iff.mp hn)
        rwa [← hs] at htext
      · rw [readExponent?, if_neg hmark] at h
        cases h
  · intro h
    cases h with
    | none => rfl
    | @some mark sign digits factor n hmark hsign hdigits =>
      have hhead : ∀ c ∈ digits.head?, c ≠ '-' ∧ c ≠ '+' := fun c hc =>
        ne_sign_of_isDigit (hdigits.isDigit c (List.mem_of_head? hc))
      obtain ⟨isNegative, hread, rfl⟩ := readSign_append hsign hhead
      rw [readExponent?_cons hmark, hread, readNat?_eq_some_iff.mpr hdigits]
      rfl

/-- What follows the digits of a number is an exponent, so it begins with neither digit nor point. -/
theorem head_of_exponentText (h : ExponentText s exponent) :
    ∀ c ∈ s.head?, c.isDigit = false ∧ c ≠ '.' := by
  intro c hc
  cases h with
  | none => cases hc
  | some hmark hsign hdigits =>
    obtain rfl := Option.some.inj hc
    rcases hmark with rfl | rfl <;> decide

/-- The digits up to a point, those after it, and what follows them all. -/
def readBody (s : List Char) : List Char × List Char × List Char :=
  let (whole, s) := s.span Char.isDigit
  (whole, readFraction s)

/-- What is read as digits with a point is such a text. -/
theorem exists_pointText (s : List Char) : ∃ body, s = body ++ (readBody s).2.2 ∧
    PointText body ((readBody s).1 ++ (readBody s).2.1) (readBody s).2.1.length := by
  have hwhole : s.takeWhile Char.isDigit ++ s.dropWhile Char.isDigit = s :=
    List.takeWhile_append_dropWhile
  simp only [readBody, List.span_eq_takeWhile_dropWhile]
  generalize s.takeWhile Char.isDigit = whole at *
  generalize s.dropWhile Char.isDigit = rest at *
  unfold readFraction
  split
  · next fraction =>
    refine ⟨whole ++ '.' :: (fraction.span Char.isDigit).1, ?_, .point _ _⟩
    rw [← hwhole, List.span_eq_takeWhile_dropWhile]
    simp
  · refine ⟨whole, hwhole.symm, ?_⟩
    rw [List.append_nil]
    exact .whole whole

/-- Digits with a point are read before an exponent. -/
theorem readBody_append (hbody : PointText body digits places) (hdigits : ∀ c ∈ digits, c.isDigit)
    (hrest : ∀ c ∈ rest.head?, c.isDigit = false ∧ c ≠ '.') :
    ∃ whole fraction, readBody (body ++ rest) = (whole, fraction, rest) ∧
      digits = whole ++ fraction ∧ places = fraction.length := by
  cases hbody with
  | whole =>
    refine ⟨digits, [], ?_, (List.append_nil _).symm, rfl⟩
    have hfraction : readFraction rest = ([], rest) := by
      unfold readFraction
      split
      · exact absurd rfl (hrest _ rfl).2
      · rfl
    simp only [readBody, span_isDigit_append hdigits fun c hc => (hrest c hc).1, hfraction]
  | point whole fraction =>
    refine ⟨whole, fraction, ?_, rfl, rfl⟩
    have hwhole : ∀ c ∈ whole, c.isDigit := fun c hc => hdigits c (List.mem_append_left _ hc)
    have hfraction : ∀ c ∈ fraction, c.isDigit := fun c hc =>
      hdigits c (List.mem_append_right _ hc)
    have hpoint : ∀ c ∈ ('.' :: (fraction ++ rest)).head?, c.isDigit = false := by
      intro c hc
      obtain rfl := Option.some.inj hc
      decide
    rw [List.append_assoc, List.cons_append]
    simp only [readBody, span_isDigit_append hwhole hpoint, readFraction,
      span_isDigit_append hfraction fun c hc => (hrest c hc).1]

/-- A number begins with a digit or with a point, and not with a sign. -/
theorem head_of_pointText (hbody : PointText body digits places) (hdigits : ∀ c ∈ digits, c.isDigit)
    (hne : digits ≠ []) : ∀ c ∈ (body ++ rest).head?, c ≠ '-' ∧ c ≠ '+' := by
  intro c hc
  cases hbody with
  | whole =>
    cases digits with
    | nil => exact absurd rfl hne
    | cons first digits =>
      obtain rfl := Option.some.inj hc
      exact ne_sign_of_isDigit (hdigits first List.mem_cons_self)
  | point whole fraction =>
    cases whole with
    | nil =>
      obtain rfl := Option.some.inj hc
      decide
    | cons first whole =>
      obtain rfl := Option.some.inj hc
      exact ne_sign_of_isDigit (hdigits first List.mem_cons_self)

/-- A literal is read part by part. -/
theorem read?_eq (s : List Char) : read? s =
    (readNat? 10 ((readBody (readSign s).2).1 ++ (readBody (readSign s).2).2.1)).bind fun n =>
      (readExponent? (readBody (readSign s).2).2.2).bind fun exponent =>
        some ⟨(readSign s).1, n, exponent - (readBody (readSign s).2).2.1.length⟩ := rfl

/-- **What is read as a literal is one, and denotes the number that it is read as.** -/
theorem decimalText_of_read? (h : read? s = some d) : DecimalText s d.value := by
  rw [read?_eq] at h
  obtain ⟨n, hn, h⟩ := Option.bind_eq_some_iff.mp h
  obtain ⟨exponent, hexponent, heq⟩ := Option.bind_eq_some_iff.mp h
  cases heq
  obtain ⟨sign, hs, hsign⟩ := exists_signText s
  obtain ⟨body, hbody, hpoint⟩ := exists_pointText (readSign s).2
  have htext := DecimalText.mk hsign hpoint (readNat?_eq_some_iff.mp hn)
    (readExponent?_eq_some_iff.mp hexponent)
  rwa [← hbody, ← hs] at htext

/-- **A literal is read as the number that it denotes.** -/
theorem exists_read?_of_decimalText (h : DecimalText s v) : ∃ d, read? s = some d ∧ d.value = v := by
  cases h with
  | @mk sign body digits tail k exponent places n hsign hbody hdigits htail =>
    obtain ⟨isNegative, hsigned, rfl⟩ :=
      readSign_append hsign (head_of_pointText hbody hdigits.isDigit hdigits.1)
    obtain ⟨whole, fraction, hread, rfl, rfl⟩ :=
      readBody_append hbody hdigits.isDigit (head_of_exponentText htail)
    refine ⟨⟨isNegative, n, exponent - fraction.length⟩, ?_, rfl⟩
    rw [read?_eq, hsigned, hread, readNat?_eq_some_iff.mpr hdigits,
      readExponent?_eq_some_iff.mpr htail]
    rfl

end Reading

end DecimalLiteral

/-- No blank is part of a decimal literal. -/
theorem DecimalText.isBlank_eq_false {s : List Char} {v : ℚ} (h : DecimalText s v) :
    ∀ c ∈ s, isBlank c = false := by
  have hsign : ∀ {sign : List Char} {k : Int}, SignText sign k → ∀ c ∈ sign, isBlank c = false := by
    intro sign k h
    cases h with
    | none => nofun
    | plus | minus => exact List.forall_mem_singleton.mpr (by decide)
  have htail : ∀ {tail : List Char} {k : Int}, ExponentText tail k →
      ∀ c ∈ tail, isBlank c = false := by
    intro tail k h
    cases h with
    | none => nofun
    | some hmark hs hdigits =>
      refine List.forall_mem_cons.mpr ⟨?_, List.forall_mem_append.mpr ⟨hsign hs, ?_⟩⟩
      · rcases hmark with rfl | rfl <;> decide
      · exact hdigits.isBlank_eq_false
  cases h with
  | mk hs hbody hdigits hexponent =>
    refine List.forall_mem_append.mpr
      ⟨hsign hs, List.forall_mem_append.mpr ⟨?_, htail hexponent⟩⟩
    cases hbody with
    | whole => exact hdigits.isBlank_eq_false
    | point whole fraction =>
      obtain ⟨hwhole, hfraction⟩ := List.forall_mem_append.mp hdigits.isBlank_eq_false
      exact List.forall_mem_append.mpr ⟨hwhole, List.forall_mem_cons.mpr ⟨by decide, hfraction⟩⟩

/-! ## §3 Numbers close to zero -/

/-- Half the least positive double. -/
def halfLeast : ℚ := 2 ^ (-1075 : Int)

namespace DecimalLiteral

variable {d : DecimalLiteral}

/-- The sign does not matter. -/
theorem abs_value (d : DecimalLiteral) : |d.value| = d.mantissa * 10 ^ d.exponent := by
  have hfactor : |(factor d.isNegative : ℚ)| = 1 := by
    cases d.isNegative <;> simp [factor]
  have hpower : (0 : ℚ) < 10 ^ d.exponent := zpow_pos (by norm_num) _
  rw [value, abs_mul, abs_mul, hfactor, one_mul, Nat.abs_cast, abs_of_pos hpower]

/-- A mantissa has not more digits than are counted. -/
theorem mantissa_lt (d : DecimalLiteral) : d.mantissa < 10 ^ d.size :=
  (Nat.length_toDigits_le_iff (by decide)
    (List.length_pos_iff.mpr (writeNat_ne_nil d.mantissa))).mp (Nat.le_refl _)

theorem two_pow_le : 2 ^ 1075 ≤ 10 ^ 324 := by
  decide +kernel

/-- A number is compared with a fraction in whole numbers: one with a positive exponent is beyond it
unless it is zero. -/
theorem abs_value_le_inv_iff {bound : Nat} (hone : 1 < bound) :
    |d.value| ≤ (bound : ℚ)⁻¹ ↔ d.mantissa * bound ≤ 10 ^ (-d.exponent).toNat := by
  rw [abs_value]
  have hbound : (0 : ℚ) < bound := Nat.cast_pos.mpr (by omega)
  rcases Int.le_total 0 d.exponent with hexponent | hexponent
  · obtain ⟨k, hk⟩ := Int.eq_ofNat_of_zero_le hexponent
    have hplaces : (-d.exponent).toNat = 0 := by omega
    rw [hplaces, hk, zpow_natCast, pow_zero, ← one_div, le_div_iff₀ hbound]
    rcases Nat.eq_zero_or_pos d.mantissa with hzero | hpos
    · simp [hzero]
    · have hwhole : 0 < d.mantissa * 10 ^ k := Nat.mul_pos hpos (Nat.pow_pos (by decide))
      refine iff_of_false (fun hle => ?_) fun hle => ?_
      · have hle' : d.mantissa * 10 ^ k * bound ≤ 1 := by exact_mod_cast hle
        exact absurd (hone.trans_le (Nat.le_mul_of_pos_left bound hwhole)) (Nat.not_lt.mpr hle')
      · exact absurd (hone.trans_le (Nat.le_mul_of_pos_left bound hpos)) (Nat.not_lt.mpr hle)
  · obtain ⟨k, hk⟩ := Int.eq_ofNat_of_zero_le (Int.neg_nonneg_of_nonpos hexponent)
    have hvalue : d.exponent = -(k : Int) := by omega
    have hplaces : (-d.exponent).toNat = k := by omega
    have hpower : (0 : ℚ) < 10 ^ k := pow_pos (by norm_num) _
    rw [hplaces, hvalue, zpow_neg, zpow_natCast, ← div_eq_mul_inv, ← one_div,
      div_le_div_iff₀ hpower hbound, one_mul]
    exact_mod_cast Iff.rfl

/-- **The test for zero is exact.** -/
theorem isNegligible_iff : d.isNegligible ↔ |d.value| ≤ halfLeast := by
  have hhalf : halfLeast = ((2 ^ 1075 : ℕ) : ℚ)⁻¹ := by
    rw [halfLeast, zpow_neg, Nat.cast_pow]
    rfl
  rw [hhalf, abs_value_le_inv_iff (one_lt_pow₀ (by decide) (by decide)), isNegligible]
  simp only [Bool.or_eq_true, decide_eq_true_iff]
  constructor
  · -- The first two tests only spare the third one.
    rintro ((hzero | hfar) | hle)
    · rw [hzero, Nat.zero_mul]
      exact Nat.zero_le _
    · have hmantissa := Nat.mul_le_mul d.mantissa_lt.le two_pow_le
      rw [← pow_add] at hmantissa
      exact hmantissa.trans (Nat.pow_le_pow_right (by decide) hfar)
    · exact hle
  · exact .inr

end DecimalLiteral

/-! ## §4 Doubles -/

/-- A finite number of double precision: 53 binary places, the first of which is not zero unless the
number is as small as they come. -/
structure Double where
  significand : Int
  exponent : Int
  significand_lt : |significand| < 2 ^ 53
  least : -1074 ≤ exponent
  greatest : exponent ≤ 971
  normal : 2 ^ 52 ≤ |significand| ∨ exponent = -1074

namespace Double

/-- The number that a double stands for. -/
def value (x : Double) : ℚ := x.significand * 2 ^ x.exponent

/-- A number is rounded to a double: no other one is nearer, and if another one is as near, this one is
even.  Beyond all doubles a number is rounded to an infinity, which is no zero either. -/
structure Rounds (v : ℚ) (x : Double) : Prop where
  nearest : ∀ y : Double, |v - x.value| ≤ |v - y.value|
  even : ∀ y : Double, y.value ≠ x.value → |v - y.value| = |v - x.value| → Even x.significand

/-- Zero. -/
def zero : Double := ⟨0, -1074, by norm_num, le_refl _, by norm_num, .inr rfl⟩

/-- The double next to zero on either side. -/
def smallest (isNegative : Bool) : Double where
  significand := if isNegative then -1 else 1
  exponent := -1074
  significand_lt := by cases isNegative <;> norm_num
  least := le_refl _
  greatest := by norm_num
  normal := .inr rfl

theorem value_zero : zero.value = 0 := by simp [value, zero]

theorem two_mul_halfLeast : 2 * halfLeast = 2 ^ (-1074 : Int) := by
  rw [halfLeast, ← zpow_one_add₀ (by norm_num)]
  rfl

theorem value_smallest (isNegative : Bool) :
    (smallest isNegative).value = if isNegative then -(2 * halfLeast) else 2 * halfLeast := by
  rw [two_mul_halfLeast]
  cases isNegative <;> simp [value, smallest]

/-- A double is zero or at least as far from zero as the least positive one. -/
theorem two_mul_halfLeast_le {x : Double} (h : x.value ≠ 0) : 2 * halfLeast ≤ |x.value| := by
  have hpower : (2 : ℚ) ^ (-1074 : Int) ≤ 2 ^ x.exponent :=
    zpow_le_zpow_right₀ (by norm_num) x.least
  have hsignificand : x.significand ≠ 0 := by
    intro hzero
    simp [value, hzero] at h
  have hone : (1 : ℚ) ≤ |(x.significand : ℚ)| := by
    exact_mod_cast Int.one_le_abs hsignificand
  have hpos : (0 : ℚ) < 2 ^ x.exponent := zpow_pos (by norm_num) _
  rw [two_mul_halfLeast, value, abs_mul, abs_of_pos hpos]
  calc (2 : ℚ) ^ (-1074 : Int)
      ≤ 2 ^ x.exponent := hpower
    _ ≤ |(x.significand : ℚ)| * 2 ^ x.exponent := le_mul_of_one_le_left hpos.le hone

/-- **Rounded to zero are the numbers up to half the least positive double.** -/
theorem rounds_zero_iff {v : ℚ} : Rounds v zero ↔ |v| ≤ halfLeast := by
  have hhalf : 0 < halfLeast := zpow_pos (by norm_num) _
  constructor
  · intro h
    -- Zero is as near as the doubles next to it on either side.
    have hright := h.nearest (smallest false)
    have hleft := h.nearest (smallest true)
    rw [value_zero, sub_zero, value_smallest] at hright hleft
    rw [if_neg Bool.false_ne_true] at hright
    rw [if_pos rfl] at hleft
    rcases le_total 0 v with hv | hv
    · rw [abs_of_nonneg hv] at hright ⊢
      rcases abs_cases (v - 2 * halfLeast) with ⟨heq, -⟩ | ⟨heq, -⟩ <;> linarith
    · rw [abs_of_nonpos hv] at hleft ⊢
      rcases abs_cases (v - -(2 * halfLeast)) with ⟨heq, -⟩ | ⟨heq, -⟩ <;> linarith
  · intro h
    refine ⟨fun y => ?_, fun _ _ _ => ⟨0, rfl⟩⟩
    rw [value_zero, sub_zero]
    by_cases hy : y.value = 0
    · rw [hy, sub_zero]
    · have hfar := two_mul_halfLeast_le hy
      have htriangle := abs_sub_abs_le_abs_sub y.value v
      rw [abs_sub_comm] at htriangle
      linarith

end Double

end RemoteUi.Text
