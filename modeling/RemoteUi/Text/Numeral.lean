/-!
# Integer numerals

How whole numbers are read from and written to texts.  A numeral is a sign where one is allowed
and at least one digit; leading zeros are allowed, blanks and separators are not.  Numbers of
fixed width are read with an explicit bound, so a numeral that does not fit is no numeral.
-/

namespace RemoteUi.Text

/-! ## §1 Digits -/

/-- The value of a digit in bases up to sixteen, in either letter case. -/
def digitValue? (base : Nat) (c : Char) : Option Nat :=
  let value :=
    if '0' ≤ c ∧ c ≤ '9' then some (c.toNat - '0'.toNat)
    else if 'a' ≤ c ∧ c ≤ 'f' then some (c.toNat - 'a'.toNat + 10)
    else if 'A' ≤ c ∧ c ≤ 'F' then some (c.toNat - 'A'.toNat + 10)
    else none
  value.filter (· < base)

/-- The number that `digits` extends `n` to, if all of them are digits. -/
def extendNat? (base : Nat) (n : Nat) : (digits : List Char) → Option Nat
  | [] => some n
  | c :: digits =>
    match digitValue? base c with
    | some d => extendNat? base (base * n + d) digits
    | none => none

/-- The value of a text of one or more digits. -/
def readNat? (base : Nat) (digits : List Char) : Option Nat :=
  if digits.isEmpty then none else extendNat? base 0 digits

/-! ## §2 Bounded numbers -/

/-- The text without a leading plus sign. -/
def dropPlus : List Char → List Char
  | '+' :: s => s
  | s => s

/-- An unsigned number below `bound`; a plus sign may stand before it. -/
def readBelow? (base bound : Nat) (s : List Char) : Option Nat :=
  (readNat? base (dropPlus s)).filter (· < bound)

/-- A decimal number of 64 bits without sign. -/
def readUInt64? (s : List Char) : Option UInt64 :=
  (readBelow? 10 UInt64.size s).map UInt64.ofNat

/-- The number of values that 64 bits have on either side of zero: 2^63. -/
def signedSize : Nat := 0x8000000000000000

/-- A decimal number of 64 bits in two's complement: from -2^63 up to 2^63 - 1. -/
def readSigned64? : List Char → Option Int
  | '-' :: s => ((readNat? 10 s).filter (· ≤ signedSize)).map fun n => -(n : Int)
  | s => (readBelow? 10 signedSize s).map Int.ofNat

/-! ## §3 Writing -/

/-- The decimal digits of a number, without leading zeros. -/
def writeNat (n : Nat) : List Char := Nat.toDigits 10 n

/-- The decimal digits of an integer, with a minus sign if it is negative. -/
def writeInt : Int → List Char
  | .ofNat n => writeNat n
  | .negSucc n => '-' :: writeNat (n + 1)

end RemoteUi.Text
