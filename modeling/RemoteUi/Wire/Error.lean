/-!
# Errors of the wire

Everything that can be wrong with what the two ends send each other, as causes.  The words for
a cause are written in one place each.
-/

namespace RemoteUi.Wire

/-! ## §1 Request documents -/

/-- Why a text is no request document, or a name no element name. -/
inductive Malformation where
  | unterminatedProlog
  | missingRoot
  | missingField
  | unterminatedStartTag
  | invalidName (name : String)
  | missingEndTag (name : String)
  | contentAfterRoot
  | unterminatedEntity
  | unknownEntity (name : String)
  deriving DecidableEq, Repr

/-- The words for a malformation. -/
def Malformation.message : Malformation → String
  | .unterminatedProlog => "unterminated prolog"
  | .missingRoot => "expected <xul> root element"
  | .missingField => "expected a field element"
  | .unterminatedStartTag => "unterminated start tag"
  | .invalidName name => "invalid element name '" ++ name ++ "'"
  | .missingEndTag name => "missing </" ++ name ++ ">"
  | .contentAfterRoot => "content after root element"
  | .unterminatedEntity => "unterminated entity"
  | .unknownEntity name => "unknown entity &" ++ name ++ ";"

/-! ## §2 All errors -/

/-- Why a request or a reply is refused by the end that reads or writes it. -/
inductive WireError where
  /-- The server answered with an error; the whole answer is kept. -/
  | server (answer : String)
  | missingToken
  | emptyToken
  | malformed (cause : Malformation)
  | missingField (field : String)
  /-- An extra of an event has the name of a field that every request has. -/
  | reservedField (name : String)
  | invalidField (field value : String)
  deriving DecidableEq, Repr

/-- The words for an error of the wire. -/
def WireError.message : WireError → String
  | .server answer => "server side error. " ++ answer
  | .missingToken => "boot response carries no session line"
  | .emptyToken => "boot response session line is empty"
  | .malformed cause => "malformed request document: " ++ cause.message
  | .missingField field => "request document is missing field '" ++ field ++ "'"
  | .reservedField name => "event extra '" ++ name ++ "' would replace a request field"
  | .invalidField field value =>
    "request document field '" ++ field ++ "' has invalid value '" ++ value ++ "'"

end RemoteUi.Wire
