import RemoteUi.Text.Hidden

/-!
# Quoted text

A text between double quotes, for display.  The quote and the backslash are written after a
backslash, the four control characters with a name of their own by that name, and every other
character without a glyph by its code point in hexadecimal between braces.
-/

namespace RemoteUi.Text

/-- The lower-case hexadecimal digits of a number. -/
def writeHex (n : Nat) : List Char := Nat.toDigits 16 n

/-- The characters that stand for one character of the text. -/
def quoteChar (c : Char) : List Char :=
  match c with
  | '\x00' => ['\\', '0']
  | '\t' => ['\\', 't']
  | '\n' => ['\\', 'n']
  | '\r' => ['\\', 'r']
  | '"' => ['\\', '"']
  | '\\' => ['\\', '\\']
  | c => if isHidden c then ['\\', 'u', '\x7b'] ++ writeHex c.toNat ++ ['\x7d'] else [c]

/-- The text in double quotes. -/
def quote (s : String) : String :=
  String.ofList ('"' :: (s.toList.flatMap quoteChar ++ ['"']))

end RemoteUi.Text
