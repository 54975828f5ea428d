import RemoteUi.Text.Numeral
import RemoteUi.Text.Search
import RemoteUi.Wire.Command
import RemoteUi.Wire.Error

/-!
# Replies

What the server answers: a stream of command lines, or an error.  The answer to a boot request
carries the token of the new session on a line of its own before the stream.
-/

namespace RemoteUi.Wire

open RemoteUi.Text

/-! ## §1 Streams -/

/-- The character between two lines of a stream. -/
def lineSeparator : Char := '\x02'

/-- The stream that carries no commands. -/
def emptyStream : List Char := "null".toList

/-- How an answer starts that is an error. -/
def errorMark : List Char := "ERROR".toList

/-- A character that makes a line a command; a line without one is skipped. -/
def isWordChar (c : Char) : Bool := c.isAlphanum || c = '_'

/-- The command lines of a stream. -/
def readStream (s : List Char) : List Line :=
  if s = emptyStream then []
  else ((s.splitOn lineSeparator).filter (·.any isWordChar)).map Line.read

/-- The stream of a list of command lines. -/
def writeStream (lines : List Line) : List Char :=
  if lines.isEmpty then emptyStream else [lineSeparator].intercalate (lines.map Line.write)

/-- The stream of a list of command lines as a text. -/
def streamText (lines : List Line) : String := String.ofList (writeStream lines)

/-! ## §2 Replies -/

/-- A stream that the client accepted: its text and the command lines in it. -/
structure Reply where
  message : String
  lines : List Line
  deriving DecidableEq, Repr

namespace Reply

/-- Reads an answer; one that starts with the error mark is an error as a whole. -/
def ofText (message : String) : Except WireError Reply :=
  if startsWith errorMark message.toList then .error (.server message)
  else .ok ⟨message, readStream message.toList⟩

/-- The number of characters to which the listing pads the node of a line. -/
def nodeColumn : Nat := 4

/-- One line of the listing: the node, the method and its first two arguments. -/
def listLine (line : Line) : String :=
  let padding := String.ofList (List.replicate (nodeColumn - line.node.length) ' ')
  "\n   " ++ padding ++ line.node ++ "." ++ line.method.getD "" ++
    "(" ++ line.arg1.getD "" ++ ", " ++ line.arg2.getD "" ++ ")"

/-- A listing of the reply for display. -/
def listing (reply : Reply) : String :=
  "* received response (" ++ String.ofList (writeNat reply.lines.length) ++ " lines):" ++
    String.join (reply.lines.map listLine)

end Reply

/-! ## §3 The answer to a boot request -/

/-- Writes the token of a new session before its first stream. -/
def frameBoot (token : Token) (stream : String) : String := token ++ "\n" ++ stream

/-- Splits the answer to a boot request into the token and the stream. -/
def splitBoot (answer : String) : Except WireError (Token × String) :=
  if startsWith errorMark answer.toList then .error (.server answer)
  else
    match splitAtMark? ['\n'] answer.toList with
    | none => .error .missingToken
    | some ([], _) => .error .emptyToken
    | some (token, stream) => .ok (String.ofList token, String.ofList stream)

end RemoteUi.Wire
