import RemoteUi.Text.Numeral

/-!
# Decimal literals

Numbers with a point and an exponent, read exactly: the value is a whole number times a power of
ten.  The one question asked here is whether the value is so close to zero that double precision
cannot tell it from zero: half the least positive double is 2^-1075, and a tie goes to zero.
-/

namespace RemoteUi.Text

/-- The number `mantissa * 10 ^ exponent`, or its negative. -/
structure DecimalLiteral where
  isNegative : Bool
  mantissa : Nat
  exponent : Int
  deriving DecidableEq, Repr

namespace DecimalLiteral

/-! ## §1 Reading -/

/-- The sign at the start of a number, and the text after it. -/
def readSign : List Char → Bool × List Char
  | '-' :: s => (true, s)
  | '+' :: s => (false, s)
  | s => (false, s)

/-- The exponent that ends a number; a number may also end without one. -/
def readExponent? : List Char → Option Int
  | [] => some 0
  | c :: s =>
    if c = 'e' ∨ c = 'E' then
      let (isNegative, digits) := readSign s
      (readNat? 10 digits).map fun n => if isNegative then -(n : Int) else n
    else none

/-- The digits after the point, if there is a point, and the text after them. -/
def readFraction : List Char → List Char × List Char
  | '.' :: s => s.span Char.isDigit
  | s => ([], s)

/-- Reads a literal: digits with an optional point among, before or after them, at least one digit
in all, a sign before and an exponent after it if there is one. -/
def read? (s : List Char) : Option DecimalLiteral := do
  let (isNegative, s) := readSign s
  let (whole, s) := s.span Char.isDigit
  let (fraction, s) := readFraction s
  let mantissa ← readNat? 10 (whole ++ fraction)
  let exponent ← readExponent? s
  return { isNegative, mantissa, exponent := exponent - fraction.length }

/-! ## §2 Zero -/

/-- The number of decimal digits of the mantissa. -/
def size (d : DecimalLiteral) : Nat := (writeNat d.mantissa).length

/-- Whether double precision takes the number for zero: `mantissa * 10 ^ exponent ≤ 2 ^ -1075`.
A number with its first digit 324 or more places after the point is that small in any case. -/
def isNegligible (d : DecimalLiteral) : Bool :=
  -- The first two tests keep the powers small: they settle every far exponent.
  let places := (-d.exponent).toNat
  d.mantissa = 0 || d.size + 324 ≤ places || d.mantissa * Nat.pow 2 1075 ≤ Nat.pow 10 places

end DecimalLiteral

end RemoteUi.Text
