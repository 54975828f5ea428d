import RemoteUi.Text.Numeral
import RemoteUi.Text.Search
import RemoteUi.Text.Utf8

/-!
# What was written is read back

The readers of numerals, of marks in a text and of UTF-8, applied to what was written.

* §1 numerals;
* §2 marks;
* §3 UTF-8.
-/

namespace RemoteUi.Text

/-! ## §1 Numerals -/

/-- Reading some digits after others goes on with the number that those give. -/
theorem extendNat?_append (base n : Nat) (xs ys : List Char) :
    extendNat? base n (xs ++ ys) =
      (extendNat? base n xs).bind fun m => extendNat? base m ys := by
  induction xs generalizing n with
  | nil => rfl
  | cons c xs ih =>
    simp only [List.cons_append, extendNat?]
    cases digitValue? base c with
    | none => rfl
    | some d => exact ih _

theorem digitValue?_digitChar {d : Nat} (h : d < 10) : digitValue? 10 d.digitChar = some d := by
  revert d
  decide

/-- The digits of a number give the number. -/
theorem extendNat?_writeNat (n : Nat) : extendNat? 10 0 (writeNat n) = some n := by
  induction n using Nat.strongRecOn with
  | ind n ih =>
    unfold writeNat at ih ⊢
    by_cases h : n < 10
    · rw [Nat.toDigits_of_lt_base h]
      simp [extendNat?, digitValue?_digitChar h]
    · -- The last digit is the remainder, and those before it are the digits of the quotient.
      have hlast : n % 10 < 10 := Nat.mod_lt n (by decide)
      rw [Nat.toDigits_of_base_le (by decide) (Nat.not_lt.mp h), extendNat?_append,
        ih (n / 10) (by omega)]
      simp only [Option.bind_some, extendNat?, digitValue?_digitChar hlast]
      congr 1
      omega

theorem writeNat_ne_nil (n : Nat) : writeNat n ≠ [] := Nat.toDigits_ne_nil

/-- A number is written with digits only. -/
theorem isDigit_of_mem_writeNat {n : Nat} {c : Char} (h : c ∈ writeNat n) : c.isDigit :=
  Nat.isDigit_of_mem_toDigits (by decide) (by decide) h

/-- A number with a sign is written with digits and a minus sign. -/
theorem isDigit_or_of_mem_writeInt {n : Int} {c : Char} (h : c ∈ writeInt n) :
    c.isDigit ∨ c = '-' := by
  cases n with
  | ofNat n => exact .inl (isDigit_of_mem_writeNat h)
  | negSucc n =>
    rcases List.mem_cons.mp h with rfl | h
    · exact .inr rfl
    · exact .inl (isDigit_of_mem_writeNat h)

/-- A written number has no sign that could be dropped. -/
theorem dropPlus_writeNat (n : Nat) : dropPlus (writeNat n) = writeNat n := by
  have hdigits := fun c => isDigit_of_mem_writeNat (n := n) (c := c)
  generalize writeNat n = digits at hdigits ⊢
  unfold dropPlus
  split
  · exact absurd (hdigits '+' List.mem_cons_self) (by decide)
  · rfl

/-- **A written number reads back**, if it is within the bound. -/
theorem readBelow?_writeNat {bound n : Nat} (h : n < bound) :
    readBelow? 10 bound (writeNat n) = some n := by
  have hne : (writeNat n).isEmpty = false := by
    simpa using writeNat_ne_nil n
  simp only [readBelow?, dropPlus_writeNat, readNat?, hne, extendNat?_writeNat]
  simp [h]

/-- **A written number of 64 bits reads back.** -/
theorem readUInt64?_writeNat (n : UInt64) : readUInt64? (writeNat n.toNat) = some n := by
  simp [readUInt64?, readBelow?_writeNat n.toNat_lt_size]

/-! ## §2 Marks -/

/-- A text does not start with a mark if its first character is another one. -/
theorem afterMark?_cons_of_ne {m c : Char} (h : m ≠ c) (mark s : List Char) :
    afterMark? (m :: mark) (c :: s) = none := by
  simp [afterMark?, h]

/-- The first occurrence of a mark is right after a text in which its first character does not
occur. -/
theorem splitAtMark?_append {m : Char} {mark before : List Char} (h : m ∉ before)
    (rest : List Char) :
    splitAtMark? (m :: mark) (before ++ (m :: mark ++ rest)) = some (before, rest) := by
  induction before with
  | nil => simp [splitAtMark?, afterMark?]
  | cons c before ih =>
    rw [List.mem_cons, not_or] at h
    obtain ⟨hc, hbefore⟩ := h
    simp only [List.cons_append, splitAtMark?, afterMark?_cons_of_ne hc]
    rw [← List.cons_append, ih hbefore]
    rfl

/-! ## §3 UTF-8 -/

/-- The bytes of a text are those of this text. -/
theorem fromUTF8?_toUTF8 (text : String) : String.fromUTF8? text.toUTF8 = some text := by
  simp only [String.fromUTF8?, String.toUTF8_eq_toByteArray, text.isValidUTF8, ↓reduceDIte]
  rfl

/-- No other bytes are. -/
theorem toUTF8_of_fromUTF8? {bytes : ByteArray} {text : String}
    (h : String.fromUTF8? bytes = some text) : text.toUTF8 = bytes := by
  unfold String.fromUTF8? at h
  split at h
  · obtain rfl := Option.some.inj h
    rfl
  · cases h

/-- **The bytes of a text decode to the text.** -/
theorem Utf8.decode_toUTF8 (text : String) : decode text.toUTF8 = .ok text := by
  rw [decode, fromUTF8?_toUTF8]

end RemoteUi.Text
