import RemoteUi.Text.Numeral

/-!
# Quotations of a settings file

Texts in quotation marks.  Between double quotes a backslash starts an escape, between single
quotes it is a character like any other.  Between three marks of a kind a text may go over several
lines, and hold up to two marks in a row.
-/

namespace RemoteUi.Toml

open RemoteUi.Text

/-! ## §1 Characters -/

/-- A character that may stand in a quotation as itself: a tab or anything but a control. -/
def isPlainChar (c : Char) : Bool := c = '\t' || (0x20 ≤ c.toNat && c.toNat ≠ 0x7F)

/-- The character that a backslash and one more character stand for. -/
def escaped? : Char → Option Char
  | 'b' => some '\x08'
  | 't' => some '\t'
  | 'n' => some '\n'
  | 'f' => some '\x0c'
  | 'r' => some '\r'
  | '"' => some '"'
  | '\\' => some '\\'
  | _ => none

/-- The character of a code, if it is a code point of a character. -/
def charOf? (code : Nat) : Option Char :=
  if h : code.isValidChar then some (Char.ofNatAux code h) else none

/-- What is at the end of a quotation over several lines, after three marks: up to two more marks
that belong to the text, and the text after the quotation. -/
def closing (mark : Char) (s : List Char) : List Char × List Char :=
  match s with
  | c :: d :: rest =>
    if c = mark then
      if d = mark then ([mark, mark], rest) else ([mark], d :: rest)
    else ([], s)
  | [c] => if c = mark then ([mark], []) else ([], s)
  | [] => ([], [])

/-! ## §2 Double quotes -/

/-- What came just before in a quotation between double quotes. -/
inductive Escape where
  | none
  /-- A backslash. -/
  | begun
  /-- A part of a character's code, with this many digits to come. -/
  | code (digits value : Nat)
  /-- A backslash and blanks: only the end of the line may follow. -/
  | lineEnd
  /-- A backslash at the end of a line: blanks and line ends are passed over. -/
  | passing
  deriving DecidableEq, Repr

/-- The text up to the closing mark of a quotation between double quotes, and the text after it. -/
def readDouble (isLong : Bool) (escape : Escape) : List Char → Option (List Char × List Char)
  | [] => .none
  | c :: s =>
    let isLineEnd := c = '\n' || (c = '\r' && s.head? = some '\n')
    match escape with
    | .begun =>
      if c = 'u' then readDouble isLong (.code 4 0) s
      else if c = 'U' then readDouble isLong (.code 8 0) s
      else if isLong && (c = ' ' || c = '\t') then readDouble isLong .lineEnd s
      else if isLong && c = '\n' then readDouble isLong .passing s
      else if isLong && isLineEnd then readDouble isLong .lineEnd s
      else do
        let d ← escaped? c
        let (content, rest) ← readDouble isLong .none s
        return (d :: content, rest)
    | .code digits value => do
      let value := 16 * value + (← digitValue? 16 c)
      if digits ≤ 1 then
        let d ← charOf? value
        let (content, rest) ← readDouble isLong .none s
        return (d :: content, rest)
      else readDouble isLong (.code (digits - 1) value) s
    | .lineEnd =>
      if c = ' ' || c = '\t' || c = '\r' && isLineEnd then readDouble isLong .lineEnd s
      else if c = '\n' then readDouble isLong .passing s
      else .none
    | state =>
      if state = .passing && (c = ' ' || c = '\t' || isLineEnd) then readDouble isLong .passing s
      else if c = '\\' then readDouble isLong .begun s
      else if c = '"' then
        if !isLong then return ([], s)
        -- Of up to five marks in a row the last three close the text.
        else if s.take 2 = ['"', '"'] then return closing '"' (s.drop 2)
        else do
          let (content, rest) ← readDouble isLong .none s
          return (c :: content, rest)
      else if isLong && isLineEnd then do
        let (content, rest) ← readDouble isLong .none s
        return (if c = '\r' then content else c :: content, rest)
      else if isPlainChar c then do
        let (content, rest) ← readDouble isLong .none s
        return (c :: content, rest)
      else .none

/-! ## §3 Single quotes -/

/-- The text up to the closing mark of a quotation between single quotes, and the text after it. -/
def readSingle (isLong : Bool) : List Char → Option (List Char × List Char)
  | [] => none
  | c :: s =>
    let isLineEnd := c = '\n' || (c = '\r' && s.head? = some '\n')
    if c = '\'' then
      if !isLong then return ([], s)
      else if s.take 2 = ['\'', '\''] then return closing '\'' (s.drop 2)
      else do
        let (content, rest) ← readSingle isLong s
        return (c :: content, rest)
    else if isLong && isLineEnd then do
      let (content, rest) ← readSingle isLong s
      return (if c = '\r' then content else c :: content, rest)
    else if isPlainChar c then do
      let (content, rest) ← readSingle isLong s
      return (c :: content, rest)
    else none

/-! ## §4 Quotations -/

/-- The text without a line end at its start. -/
def dropLineEnd : List Char → List Char
  | '\n' :: s => s
  | '\r' :: '\n' :: s => s
  | s => s

/-- The quotation at the start of a text on one line, and the text after it. -/
def readQuotation? : List Char → Option (List Char × List Char)
  | '"' :: s => readDouble false .none s
  | '\'' :: s => readSingle false s
  | _ => none

/-- The quotation at the start of a text, on one line or several, and the text after it. -/
def readLongQuotation? : List Char → Option (List Char × List Char)
  | '"' :: '"' :: '"' :: s => readDouble true .none (dropLineEnd s)
  | '\'' :: '\'' :: '\'' :: s => readSingle true (dropLineEnd s)
  | s => readQuotation? s

end RemoteUi.Toml
