import RemoteUi.Text.Numeral
import RemoteUi.Text.Search
import RemoteUi.Wire.Error

/-!
# Entity text

Text between the tags of a document.  Writing replaces the ampersand and the two angle brackets
by their entities.  Reading takes every other spelling as well: the five named entities and
references by code point, in decimal or in hexadecimal.
-/

namespace RemoteUi.Wire.Entity

open RemoteUi.Text

/-! ## §1 Writing -/

/-- The characters that stand for one character of the text. -/
def escapeChar : Char → List Char
  | '&' => "&amp;".toList
  | '<' => "&lt;".toList
  | '>' => "&gt;".toList
  | c => [c]

/-- The text with ampersands and angle brackets written as entities. -/
def escape (s : List Char) : List Char := s.flatMap escapeChar

/-! ## §2 Reading -/

/-- The character with a code point below 2^32, if there is one. -/
def charOfCode? (code : Nat) : Option Char :=
  if h : code.isValidChar then some (Char.ofNatAux code h) else none

/-- The character that a reference `#…` denotes. -/
def charOfReference? : (name : List Char) → Option Char
  | '#' :: 'x' :: digits => (readBelow? 16 UInt32.size digits).bind charOfCode?
  | '#' :: 'X' :: digits => (readBelow? 16 UInt32.size digits).bind charOfCode?
  | '#' :: digits => (readBelow? 10 UInt32.size digits).bind charOfCode?
  | _ => none

/-- The character that an entity denotes, by the text between the ampersand and the semicolon. -/
def charOfName? (name : List Char) : Option Char :=
  if name = "amp".toList then some '&'
  else if name = "lt".toList then some '<'
  else if name = "gt".toList then some '>'
  else if name = "quot".toList then some '"'
  else if name = "apos".toList then some '\''
  else charOfReference? name

/-- The text that an entity text denotes, or the first thing wrong with it. -/
def unescape : List Char → Except Malformation (List Char)
  | [] => .ok []
  | c :: s =>
    if c = '&' then
      match _h : splitAtMark? [';'] s with
      | none => .error .unterminatedEntity
      | some (name, rest) =>
        match charOfName? name with
        | none => .error (.unknownEntity (String.ofList name))
        | some d => (unescape rest).map (d :: ·)
    else (unescape s).map (c :: ·)
  termination_by s => s.length
  decreasing_by
    · have := length_of_splitAtMark? _h
      simp only [List.length_cons]
      omega
    · simp

end RemoteUi.Wire.Entity
