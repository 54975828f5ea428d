import RemoteUi.Text.Blank
import RemoteUi.Text.DecimalLiteral
import RemoteUi.Text.Search

/-!
# Flags

The server has no booleans: it sends texts for them.  A flag is off if its value is missing, blank
or a numeral for zero, and on otherwise.  In a window a flag that is on is an attribute with the
value `true`, and a flag that is off is no attribute at all.
-/

namespace RemoteUi

open RemoteUi.Text

/-- How numerals in another base than ten start. -/
def radixMarks : List (List Char) :=
  ["0x".toList, "0X".toList, "0b".toList, "0B".toList, "0o".toList, "0O".toList]

/-- Whether a text is a numeral for zero.  Numerals in another base take neither sign nor
fraction, and their digits are not looked at beyond being zeros. -/
def isZeroNumeral (s : List Char) : Bool :=
  match radixMarks.findSome? fun mark => afterMark? mark s with
  | some digits => !digits.isEmpty && digits.all (· = '0')
  | none => (DecimalLiteral.read? s).any (·.isNegligible)

/-- Whether a flag is on by the value that the server sends for it. -/
def flagIsOn : (value : Option String) → Bool
  | none => false
  | some value =>
    let value := trim value.toList
    !(value.isEmpty || isZeroNumeral value)

/-- The value of the attribute that shows a flag, if there is one. -/
def flagAttribute? (value : Option String) : Option String :=
  if flagIsOn value then some "true" else none

end RemoteUi
