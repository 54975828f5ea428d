import RemoteUi.Text.CodeRanges

/-!
# Blanks

A blank is a character with the Unicode property *White_Space*.  Trimming removes blanks from
the ends of a text and leaves those inside alone.
-/

namespace RemoteUi.Text

/-! ## §1 The class -/

/-- The characters with the property *White_Space*, in ascending order. -/
def blankRanges : CodeRanges := [
  (0x9, 0xD), (0x20, 0x20), (0x85, 0x85), (0xA0, 0xA0), (0x1680, 0x1680), (0x2000, 0x200A),
  (0x2028, 0x2029), (0x202F, 0x202F), (0x205F, 0x205F), (0x3000, 0x3000)]

/-- A blank: white space in the sense of Unicode. -/
def isBlank (c : Char) : Bool := blankRanges.has c

/-- Every ASCII white-space character is a blank. -/
theorem isBlank_of_isWhitespace {c : Char} (h : c.isWhitespace) : isBlank c := by
  simp only [Char.isWhitespace, Bool.or_eq_true, decide_eq_true_eq] at h
  rcases h with ((rfl | rfl) | rfl) | rfl <;> decide

/-! ## §2 Trimming -/

/-- The text from its first character that is no blank. -/
def trimStart (s : List Char) : List Char := s.dropWhile isBlank

/-- The text up to its last character that is no blank. -/
def trimEnd (s : List Char) : List Char := (s.reverse.dropWhile isBlank).reverse

/-- The text without the blanks at both ends. -/
def trim (s : List Char) : List Char := trimEnd (trimStart s)

/-- Trimming the start never makes a text longer. -/
theorem length_trimStart_le (s : List Char) : (trimStart s).length ≤ s.length :=
  (List.dropWhile_suffix isBlank).length_le

end RemoteUi.Text
