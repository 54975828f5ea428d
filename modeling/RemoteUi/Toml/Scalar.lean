import RemoteUi.Text.DecimalLiteral

/-!
# Scalars of a settings file

Truth values, numbers, dates and times, each written as one word.  Numbers may have underscores
between their digits.

* §1 whole numbers of 64 bits, in four bases;
* §2 numbers with a fraction or an exponent, within the range of double precision;
* §3 dates and times of the calendar;
* §4 words.
-/

namespace RemoteUi.Toml

open RemoteUi.Text

/-! ## §1 Whole numbers -/

/-- The digits without the underscores between them; `afterDigit` tells whether a digit came just
before.  An underscore elsewhere than between two digits is refused. -/
def dropUnderscores (isDigit : Char → Bool) (afterDigit : Bool) : List Char → Option (List Char)
  | [] => if afterDigit then some [] else none
  | c :: s =>
    if isDigit c then (dropUnderscores isDigit true s).map (c :: ·)
    else if c = '_' ∧ afterDigit then
      match s with
      | [] => none
      | _ :: _ => dropUnderscores isDigit false s
    else none

/-- The value of digits with underscores between them. -/
def readDigits? (base : Nat) (s : List Char) : Option Nat :=
  (dropUnderscores (fun c => (digitValue? base c).isSome) false s).bind (readNat? base)

/-- Whether a run of decimal digits has a zero before other digits. -/
def hasLeadingZero : List Char → Bool
  | '0' :: _ :: _ => true
  | _ => false

/-- A decimal number without sign or leading zero. -/
def readPlain? (s : List Char) : Option Nat :=
  if hasLeadingZero s then none else readDigits? 10 s

/-- Whether a word is a whole number of 64 bits. -/
def isInteger (s : List Char) : Bool :=
  match s with
  | '0' :: 'x' :: digits => (readDigits? 16 digits).any (· < signedSize)
  | '0' :: 'o' :: digits => (readDigits? 8 digits).any (· < signedSize)
  | '0' :: 'b' :: digits => (readDigits? 2 digits).any (· < signedSize)
  | '-' :: digits => (readPlain? digits).any (· ≤ signedSize)
  | '+' :: digits => (readPlain? digits).any (· < signedSize)
  | digits => (readPlain? digits).any (· < signedSize)

/-! ## §2 Fractions -/

/-- Whether a number is above the range of double precision: nearer to 2^1024 than to the largest
double below it, or not below 2^1024 at all. -/
def isTooLarge (d : DecimalLiteral) : Bool :=
  !d.isNegative && d.mantissa != 0 &&
    (310 < d.exponent + d.size ||
      (308 < d.exponent + d.size &&
        (Nat.pow 2 1024 - Nat.pow 2 970) * Nat.pow 10 (-d.exponent).toNat ≤
          d.mantissa * Nat.pow 10 d.exponent.toNat))

/-- Whether the parts of a number with a fraction or an exponent are digits: those before the
point, those after it and those of the exponent, where there are such. -/
def hasFloatParts (s : List Char) : Bool :=
  let (whole, s) := s.span fun c => c.isDigit || c = '_'
  let isWhole := (readPlain? whole).isSome
  let (isFraction, s) :=
    match s with
    | '.' :: s =>
      let (fraction, s) := s.span fun c => c.isDigit || c = '_'
      ((readDigits? 10 fraction).isSome, s)
    | s => (true, s)
  let isExponent :=
    match s with
    | [] => true
    | c :: s => (c = 'e' || c = 'E') && (readDigits? 10 (DecimalLiteral.readSign s).2).isSome
  isWhole && isFraction && isExponent

/-- Whether a word is a number with a fraction or an exponent, or one of the special numbers. -/
def isFloat (s : List Char) : Bool :=
  let unsigned := (DecimalLiteral.readSign s).2
  if unsigned = "inf".toList || unsigned = "nan".toList then true
  else
    hasFloatParts unsigned && s.any (fun c => c = '.' || c = 'e' || c = 'E') &&
      (DecimalLiteral.read? (s.filter (· ≠ '_'))).any fun d => !isTooLarge d

/-! ## §3 Dates and times -/

/-- A number of exactly `size` decimal digits at the start of a text, and the text after it. -/
def readFixed? (size : Nat) (s : List Char) : Option (Nat × List Char) :=
  if s.length < size then none
  else
    let digits := s.take size
    if digits.all Char.isDigit then (readNat? 10 digits).map fun n => (n, s.drop size) else none

/-- The text after a given character at its start. -/
def skip? (c : Char) : List Char → Option (List Char)
  | d :: s => if d = c then some s else none
  | [] => none

/-- The number of days of a month. -/
def daysOf (year month : Nat) : Nat :=
  if month = 2 then
    if year % 4 = 0 ∧ (year % 100 ≠ 0 ∨ year % 400 = 0) then 29 else 28
  else if [4, 6, 9, 11].contains month then 30
  else 31

/-- The text after a date of the calendar. -/
def skipDate? (s : List Char) : Option (List Char) := do
  let (year, s) ← readFixed? 4 s
  let (month, s) ← readFixed? 2 (← skip? '-' s)
  let (day, s) ← readFixed? 2 (← skip? '-' s)
  guard (1 ≤ month ∧ month ≤ 12 ∧ 1 ≤ day ∧ day ≤ daysOf year month)
  return s

/-- The text after hours and minutes. -/
def skipMinutes? (s : List Char) : Option (List Char) := do
  let (hour, s) ← readFixed? 2 s
  let (minute, s) ← readFixed? 2 (← skip? ':' s)
  guard (hour ≤ 23 ∧ minute ≤ 59)
  return s

/-- The text after a time of the day; a minute may have a leap second. -/
def skipTime? (s : List Char) : Option (List Char) := do
  let (second, s) ← readFixed? 2 (← skip? ':' (← skipMinutes? s))
  guard (second ≤ 60)
  match s with
  | '.' :: s => if (s.headD ' ').isDigit then return s.dropWhile Char.isDigit else none
  | s => return s

/-- Whether a text is an offset from universal time, or nothing. -/
def isOffset (s : List Char) : Bool :=
  match s with
  | [] => true
  | [c] => c = 'Z' || c = 'z'
  | c :: s => (c = '+' || c = '-') && skipMinutes? s = some []

/-- Whether a text is a time with an offset if it has one. -/
def isTimeWithOffset (s : List Char) : Bool := (skipTime? s).any isOffset

/-- Whether a text is a date, a time, or both with a letter or a blank between them. -/
def isMoment (s : List Char) : Bool :=
  match skipDate? s with
  | some [] => true
  | some (c :: s) => (c = 'T' || c = 't' || c = ' ') && isTimeWithOffset s
  | none => skipTime? s = some []

/-! ## §4 Words -/

/-- A character of a word. -/
def isWordChar (c : Char) : Bool := c.isAlphanum || c = '_' || c = '+' || c = '-' || c = '.' || c = ':'

/-- Whether a word is a date alone. -/
def isDate (word : List Char) : Bool := skipDate? word = some []

/-- The word at the start of a text and the text after it.  A time after a date and a blank belongs
to the same word. -/
def readWord (s : List Char) : List Char × List Char :=
  let (word, rest) := s.span isWordChar
  match rest with
  | ' ' :: rest' =>
    let (time, rest'') := rest'.span isWordChar
    if isDate word && !time.isEmpty then (word ++ ' ' :: time, rest'') else (word, rest)
  | rest => (word, rest)

end RemoteUi.Toml
