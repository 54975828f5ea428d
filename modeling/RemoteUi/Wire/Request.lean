import RemoteUi.Wire.Document
import RemoteUi.Wire.Event

/-!
# Requests

The two requests of the client and their form as documents.

* A *boot* request starts a program; it may name the program.
* An *event* request reports an event to a session.

Every request carries its number.  The extras of an event become fields of their own, which is
why they must have valid names and may not take the name of a field that requests have anyway.
-/

namespace RemoteUi.Wire

open RemoteUi.Text

/-! ## §1 Requests -/

/-- A request of the client, with its number. -/
inductive Request where
  | boot (program : Option String) (count : UInt64)
  | event (session : Token) (event : Event) (count : UInt64)
  deriving DecidableEq, Repr

/-- The number of a request. -/
def Request.count : Request → UInt64
  | .boot _ number => number
  | .event _ _ number => number

/-- The fields that requests have anyway. -/
def reservedFields : List String :=
  ["source", "name", "checked", "type", "session", "requestCount"]

/-! ## §2 Writing -/

/-- The value of a request's number as a field. -/
def countText (count : UInt64) : String := String.ofList (writeNat count.toNat)

/-- The document of a boot request. -/
def bootDocument (program : Option String) (count : UInt64) : Document :=
  let doc := Document.empty.insert "type" "boot"
  let doc := match program with
    | some name => doc.insert "name" name
    | none => doc
  doc.insert "requestCount" (countText count)

/-- Refuses a name that an extra may not have. -/
def checkExtra (key : String) : Except WireError Unit :=
  if reservedFields.contains key then .error (.reservedField key)
  else (checkElementName key.toList).mapError .malformed

/-- The document of an event request; the first extra with an unusable name refuses it. -/
def eventDocument (event : Event) (session : Token) (count : UInt64) :
    Except WireError Document := do
  event.extra.keys.forM checkExtra
  let doc := (Document.empty.insert "source" event.source).insert "name" event.kind.name
  let doc := match event.checked with
    | some checked => doc.insert "checked" checked
    | none => doc
  let doc := event.extra.entries.foldl (fun doc field => doc.insert field.1 field.2) doc
  return ((doc.insert "type" "event").insert "session" session).insert
    "requestCount" (countText count)

/-- The document of a request. -/
def Request.toDocument : Request → Except WireError Document
  | .boot program number => .ok (bootDocument program number)
  | .event session report number => eventDocument report session number

/-! ## §3 Reading -/

/-- The value of a field that a request must have. -/
def Document.require (doc : Document) (field : String) : Except WireError String :=
  match doc.get? field with
  | some value => .ok value
  | none => .error (.missingField field)

/-- The fields of a document that are no fields of requests in general. -/
def Document.extras (doc : Document) : Dict String :=
  Dict.ofList (doc.fields.filter fun field => !reservedFields.contains field.1)

/-- The event that a document reports. -/
def eventOfDocument (doc : Document) : Except WireError Event := do
  let name ← doc.require "name"
  match EventKind.ofName? name with
  | none => throw (.invalidField "name" name)
  | some kind => return ⟨← doc.require "source", kind, doc.get? "checked", doc.extras⟩

/-- The request that a document makes, or the first thing wrong with it. -/
def Request.ofDocument (doc : Document) : Except WireError Request := do
  let number ← doc.require "requestCount"
  match readUInt64? number.toList with
  | none => throw (.invalidField "requestCount" number)
  | some count =>
    match ← doc.require "type" with
    | "boot" => return .boot (doc.get? "name") count
    | "event" => return .event (← doc.require "session") (← eventOfDocument doc) count
    | other => throw (.invalidField "type" other)

/-- The request that a text makes. -/
def Request.ofText (text : String) : Except WireError Request := do
  Request.ofDocument (← Document.ofText text)

end RemoteUi.Wire
