import RemoteUi.Toml.Moment
import RemoteUi.Toml.Quotation

/-!
# Settings files

A settings file is a list of lines: keys with values, headers of tables and remarks.  A file with
anything wrong in it has no meaning at all.

This is the language that the files of both ends are written in, so it decides which files they take,
and the program cannot be run on files without it.  The settings do not depend on it: they are made
with any reader of files, and no property of them rests on this one.

* §1 blanks and remarks;
* §2 keys;
* §3 values, which may be nested up to a limit;
* §4 lines and whole files;
* §5 what the keys of a file stand for.
-/

namespace RemoteUi.Toml

/-! ## §1 Blanks -/

/-- The text after blanks and tabs. -/
def skipBlanks (s : List Char) : List Char := s.dropWhile fun c => c = ' ' || c = '\t'

/-- The text after a remark, if there is one at the start. -/
def skipRemark : List Char → List Char
  | '#' :: s => s.dropWhile isPlainChar
  | s => s

/-- The text after a line end; the end of the file is one. -/
def skipLineEnd? : List Char → Option (List Char)
  | [] => some []
  | '\n' :: s => some s
  | '\r' :: '\n' :: s => some s
  | _ => none

/-- The text after the end of a line that holds nothing more but a remark. -/
def skipTrailing? (s : List Char) : Option (List Char) := skipLineEnd? (skipRemark (skipBlanks s))

/-- The text after blanks, remarks and line ends; `limit` bounds their number. -/
def skipSpace : (limit : Nat) → List Char → Option (List Char)
  | 0, s => some s
  | limit + 1, s =>
    match skipBlanks s with
    | '#' :: s =>
      -- A control character in a remark ends the reading: it is neither remark nor line end.
      match skipLineEnd? (s.dropWhile isPlainChar) with
      | some rest => skipSpace limit rest
      | none => none
    | '\n' :: s => skipSpace limit s
    | '\r' :: '\n' :: s => skipSpace limit s
    | s => some s

/-! ## §2 Keys -/

/-- The number of parts that a key must stay below, and the number of values within one
another. -/
def nestingLimit : Nat := 80

/-- A character of a key without quotation marks. -/
def isKeyChar (c : Char) : Bool := c.isAlphanum || c = '_' || c = '-'

/-- One part of a key and the text after it. -/
def readPart? (s : List Char) : Option (List Char × List Char) :=
  match readQuotation? s with
  | some found => some found
  | none =>
    let (part, rest) := s.span isKeyChar
    if part.isEmpty then none else some (part, rest)

/-- The parts of a key with blanks around the full stops between them, and the text after it;
`limit` bounds the number of parts. -/
def readKey? : (limit : Nat) → List Char → Option (List (List Char) × List Char)
  | 0, _ => none
  | limit + 1, s => do
    let (part, rest) ← readPart? (skipBlanks s)
    match skipBlanks rest with
    | '.' :: rest =>
      let (parts, rest) ← readKey? limit rest
      return (part :: parts, rest)
    | rest => return ([part], rest)

/-! ## §3 Values -/

/-- The value that a word stands for. -/
def valueOfWord? (word : List Char) : Option Item :=
  if word = "true".toList then some (.flag true)
  else if word = "false".toList then some (.flag false)
  else if isInteger word || isFloat word || isMoment word then some .scalar
  else none

mutual

/-- The value at the start of a text and the text after it, with at most `depth` values around
one another. -/
def readValue? (fuel depth : Nat) (s : List Char) : Option (Item × List Char) :=
  match fuel with
  | 0 => none
  | fuel + 1 =>
    match s with
    | '[' :: s =>
      if depth = 0 then none
      else
        (readElements? fuel (depth - 1) s).map fun (elements, rest) => (.list elements, rest)
    | '\x7b' :: s =>
      if depth = 0 then none
      else
        (readMembers? fuel (depth - 1) s).map fun (entries, rest) => (.inlineTable entries, rest)
    | '"' :: _ => (readLongQuotation? s).map fun (content, rest) => (.text content, rest)
    | '\'' :: _ => (readLongQuotation? s).map fun (content, rest) => (.text content, rest)
    | s =>
      let (word, rest) := readWord s
      (valueOfWord? word).map fun value => (value, rest)

/-- The rest of a list and the text after it: values with commas between them, over several
lines. -/
def readElements? (fuel depth : Nat) (s : List Char) : Option (List Item × List Char) :=
  match fuel with
  | 0 => none
  | fuel + 1 =>
    match skipSpace s.length s with
    -- A comma may stand before the end of a list.
    | some (']' :: rest) => some ([], rest)
    | some s => do
      let (value, rest) ← readValue? fuel depth s
      match skipSpace rest.length rest with
      | some (',' :: rest) =>
        let (values, rest) ← readElements? fuel depth rest
        return (value :: values, rest)
      | some (']' :: rest) => return ([value], rest)
      | _ => none
    | none => none

/-- A table on one line and the text after it: keys with values and commas between them. -/
def readMembers? (fuel depth : Nat) (s : List Char) : Option (Entries × List Char) :=
  match fuel with
  | 0 => none
  | fuel + 1 =>
    match skipBlanks s with
    | '\x7d' :: rest => some ([], rest)
    | s => readMembersFrom? fuel depth [] s

/-- A table on one line with the members still to come added to it, and the text after it. -/
def readMembersFrom? (fuel depth : Nat) (entries : Entries) (s : List Char) :
    Option (Entries × List Char) :=
  match fuel with
  | 0 => none
  | fuel + 1 => do
    let (parts, rest) ← readKey? (nestingLimit - 1) s
    match rest with
    | '=' :: rest =>
      -- Here a comma must be followed by another member.
      let (value, rest) ← readValue? fuel depth (skipBlanks rest)
      let entries ← Entries.define parts.dropLast (parts.getLastD []) value .header entries
      match skipBlanks rest with
      | ',' :: rest => readMembersFrom? fuel depth entries rest
      | '\x7d' :: rest => return (entries, rest)
      | _ => none
    | _ => none

end

/-- The value at the start of a text and the text after it.  Each step of the reading that goes on
without taking a character is followed by one that takes one. -/
def readValueAtStart? (s : List Char) : Option (Item × List Char) :=
  readValue? (3 * s.length + 3) (nestingLimit - 1) s

/-! ## §4 Files -/

/-- A line of a settings file that says something. -/
inductive Statement where
  | setting (parts : List (List Char)) (value : Item)
  | table (parts : List (List Char))
  | element (parts : List (List Char))

/-- The statement at the start of a text, and the text after its line. -/
def readStatement? (s : List Char) : Option (Statement × List Char) :=
  match s with
  | '[' :: '[' :: s => do
    let (parts, rest) ← readKey? (nestingLimit - 1) s
    match rest with
    | ']' :: ']' :: rest => return (.element parts, ← skipTrailing? rest)
    | _ => none
  | '[' :: s => do
    let (parts, rest) ← readKey? (nestingLimit - 1) s
    match rest with
    | ']' :: rest => return (.table parts, ← skipTrailing? rest)
    | _ => none
  | s => do
    let (parts, rest) ← readKey? (nestingLimit - 1) s
    match rest with
    | '=' :: rest =>
      let (value, rest) ← readValueAtStart? (skipBlanks rest)
      return (.setting parts value, ← skipTrailing? rest)
    | _ => none

/-- The statements of a text; `limit` bounds their number. -/
def readStatements? : (limit : Nat) → List Char → Option (List Statement)
  | 0, _ => none
  | limit + 1, s =>
    match skipSpace s.length s with
    | none => none
    | some [] => some []
    | some s => do
      let (statement, rest) ← readStatement? s
      return statement :: (← readStatements? limit rest)

/-- Carries out a statement: `current` is the table that settings go into. -/
def Statement.apply (current : List (List Char)) (entries : Entries) :
    Statement → Option (List (List Char) × Entries)
  | .setting parts value => do
    let change := Entries.define parts.dropLast (parts.getLastD []) value
    return (current, ← Entries.changeAt .implied change current .header entries)
  | .table parts => do
    return (parts, ← Entries.openTable parts.dropLast (parts.getLastD []) .header entries)
  | .element parts => do
    return (parts, ← Entries.openElement parts.dropLast (parts.getLastD []) .header entries)

/-- Carries out statements in order. -/
def applyAll (current : List (List Char)) (entries : Entries) :
    List Statement → Option Entries
  | [] => some entries
  | statement :: rest => do
    let (current, entries) ← statement.apply current entries
    applyAll current entries rest

/-- The text without a byte order mark. -/
def dropOrderMark : List Char → List Char
  | '\uFEFF' :: s => s
  | s => s

/-- The table that a file holds, if nothing is wrong with the file. -/
def read? (file : String) : Option Entries := do
  let s := dropOrderMark file.toList
  let entries ← applyAll [] [] (← readStatements? (s.length + 1) s)
  if entries.all fun e => e.2.isSound then return entries else none

/-! ## §5 What a file says -/

/-- The text that a key of the table stands for. -/
def Entries.text? (entries : Entries) (key : String) : Option String :=
  match entries.get? key.toList with
  | some (.text content) => some (String.ofList content)
  | _ => none

/-- The truth value that a key of the table stands for. -/
def Entries.flag? (entries : Entries) (key : String) : Option Bool :=
  match entries.get? key.toList with
  | some (.flag isOn) => some isOn
  | _ => none

/-- Whether a table holds nothing but texts. -/
def Entries.allTexts (entries : Entries) : Bool :=
  entries.all fun e =>
    match e.2 with
    | .text _ => true
    | _ => false

end RemoteUi.Toml
