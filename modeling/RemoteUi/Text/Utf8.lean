/-!
# UTF-8

Which byte sequences are UTF-8, and where and how the others go wrong.  A fault is reported at
the first byte of the character that cannot be completed, together with the number of bytes of
the longest start of a character found there; if the bytes merely end too early, the character is
incomplete instead.
-/

namespace RemoteUi.Text.Utf8

/-! ## §1 One character -/

/-- How the bytes at some position continue. -/
inductive Step where
  /-- A character of this many bytes. -/
  | char (size : Nat)
  /-- No character starts with the first `size` bytes and the byte after them. -/
  | invalid (size : Nat)
  /-- All bytes left are the start of a character. -/
  | incomplete
  deriving DecidableEq, Repr

/-- The number of bytes of a character by its first byte, with the least and the greatest second
byte that may follow. -/
def lead (b : Nat) : Option (Nat × Nat × Nat) :=
  if b < 0x80 then some (1, 0x80, 0xBF)
  else if 0xC2 ≤ b ∧ b ≤ 0xDF then some (2, 0x80, 0xBF)
  else if b = 0xE0 then some (3, 0xA0, 0xBF)
  else if b = 0xED then some (3, 0x80, 0x9F)
  else if 0xE1 ≤ b ∧ b ≤ 0xEF then some (3, 0x80, 0xBF)
  else if b = 0xF0 then some (4, 0x90, 0xBF)
  else if 0xF1 ≤ b ∧ b ≤ 0xF3 then some (4, 0x80, 0xBF)
  else if b = 0xF4 then some (4, 0x80, 0x8F)
  else none

/-- Reads the continuation bytes still owed, `seen` bytes into a character of `size` bytes. -/
def tail (size seen low high : Nat) : (owed : Nat) → List UInt8 → Step
  | 0, _ => .char size
  | _ + 1, [] => .incomplete
  | owed + 1, b :: bytes =>
    -- Only the second byte has bounds of its own; they rule out overlong forms and surrogates.
    if low ≤ b.toNat ∧ b.toNat ≤ high then tail size (seen + 1) 0x80 0xBF owed bytes
    else .invalid seen

/-- What stands at the start of a byte sequence. -/
def step : List UInt8 → Step
  | [] => .incomplete
  | b :: bytes =>
    match lead b.toNat with
    | some (size, low, high) => tail size 1 low high (size - 1) bytes
    | none => .invalid 1

/-! ## §2 Whole sequences -/

/-- Why a byte sequence is not UTF-8; `index` counts the bytes before the fault. -/
inductive Fault where
  | invalid (index size : Nat)
  | incomplete (index : Nat)
  deriving DecidableEq, Repr

/-- The words for a fault. -/
def Fault.message : Fault → String
  | .invalid index size =>
    s!"invalid utf-8 sequence of {size} bytes from index {index}"
  | .incomplete index => s!"incomplete utf-8 byte sequence from index {index}"

/-- The first fault of a byte sequence that starts `index` bytes into the whole; its first `skip`
bytes belong to a character already read.  Bytes that just end leave nothing but an unfinished
sequence to report. -/
def faultFrom (index skip : Nat) : List UInt8 → Fault
  | [] => .incomplete index
  | b :: bytes =>
    match skip with
    | skip + 1 => faultFrom (index + 1) skip bytes
    | 0 =>
      match step (b :: bytes) with
      | .char size => faultFrom (index + 1) (size - 1) bytes
      | .invalid size => .invalid index size
      | .incomplete => .incomplete index

/-- The text that a byte sequence encodes, or the first fault in it. -/
def decode (bytes : ByteArray) : Except Fault String :=
  match String.fromUTF8? bytes with
  | some text => .ok text
  | none => .error (faultFrom 0 0 bytes.toList)

end RemoteUi.Text.Utf8
