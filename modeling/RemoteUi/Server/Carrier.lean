/-!
# Carriers

What carries requests to the server and responses back: the libraries of the hypertext protocol on
both sides, and the router and the reader of bodies in front of the server.  None of it belongs to the
server, so it is a parameter: whatever is proved of the server holds over every carrier that does what
its documentation says.

* §1 messages and responses;
* §2 carriers;
* §3 what the documentation of a carrier says.
-/

namespace RemoteUi

/-! ## §1 Messages -/

/-- A message on its way to the server. -/
structure Message where
  method : String
  /-- The path with a query, or an address with both. -/
  target : String
  body : ByteArray

/-- What a message is answered. -/
structure Response where
  status : Nat
  body : String
  deriving DecidableEq, Repr

/-! ## §2 Carriers -/

/-- What becomes of a message before the server has seen it. -/
inductive Passage where
  /-- It is a request, and the server gets this text. -/
  | request (text : String)
  /-- It asks whether the server is up. -/
  | health
  /-- The carrier responds by itself, and the server does not hear of the message. -/
  | turnedAway (response : Response)

/-- A carrier of messages. -/
structure Carrier where
  /-- The target of the messages with which a client sends requests to a path. -/
  target (path : String) : String
  /-- What becomes of a message, if requests are taken at this path. -/
  passage (requestPath : String) (message : Message) : Passage
  /-- A status with the words that go with it. -/
  statusText (status : Nat) : String

namespace Carrier

/-! ## §3 The documentation -/

/-- A target is a place for requests: every text that is posted there reaches the server as it is, up
to a number of bytes. -/
structure TakesAt (carrier : Carrier) (limit : Nat) (requestPath target : String) : Prop where
  handsOver : ∀ text : String, text.utf8ByteSize ≤ limit →
    carrier.passage requestPath ⟨"POST", target, text.toUTF8⟩ = .request text
  /-- A body with more bytes is too large. -/
  tooLarge : ∀ body : ByteArray, limit < body.size → ∃ response, response.status = 413 ∧
    carrier.passage requestPath ⟨"POST", target, body⟩ = .turnedAway response
  /-- A body that is no text is a bad one. -/
  noText : ∀ body : ByteArray, body.size ≤ limit → String.fromUTF8? body = none →
    ∃ response, response.status = 400 ∧
      carrier.passage requestPath ⟨"POST", target, body⟩ = .turnedAway response

/-- A target is no place for requests: whatever is posted there is not found, or not allowed. -/
def RefusesAt (carrier : Carrier) (requestPath target : String) : Prop :=
  ∀ body : ByteArray, ∃ response, (response.status = 404 ∨ response.status = 405) ∧
    carrier.passage requestPath ⟨"POST", target, body⟩ = .turnedAway response

/-- If requests are taken at this path, then what clients post to any path comes to a place for
requests, or it does not.  Which of the two it is depends on the paths alone. -/
def Documented (carrier : Carrier) (limit : Nat) (requestPath : String) : Prop :=
  ∀ path, carrier.TakesAt limit requestPath (carrier.target path) ∨
    carrier.RefusesAt requestPath (carrier.target path)

end Carrier

end RemoteUi
