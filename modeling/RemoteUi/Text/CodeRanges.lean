/-!
# Ranges of code points

Unicode properties are tables of closed ranges of code points.  Membership is read off the table
by a plain scan, so a statement about a table is a statement about its entries.
-/

namespace RemoteUi.Text

/-- A character class given as closed ranges of code points. -/
abbrev CodeRanges := List (Nat × Nat)

/-- Whether the code point of `c` lies in one of the ranges. -/
def CodeRanges.has (ranges : CodeRanges) (c : Char) : Bool :=
  ranges.any fun range => range.1 ≤ c.toNat && c.toNat ≤ range.2

/-- **Membership in a table is membership in one of its ranges.** -/
theorem CodeRanges.has_iff (ranges : CodeRanges) (c : Char) :
    ranges.has c ↔ ∃ range ∈ ranges, range.1 ≤ c.toNat ∧ c.toNat ≤ range.2 := by
  simp [CodeRanges.has]

end RemoteUi.Text
