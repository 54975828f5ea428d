import RemoteUi.Server.Carrier
import RemoteUi.Server.Path
import RemoteUi.Text.Numeral
import RemoteUi.Text.Utf8

/-!
# The standard carrier

The carrier that the server is run with.  It knows two places: one takes requests, the other one tells
that the server is up.  The path for requests may be a pattern, so it can stand for many places; the
place that tells that the server is up is not among them, unless it is spelled out.

No property of the server rests on what this carrier does: it shows that there is one which is as
documented.
-/

namespace RemoteUi

open RemoteUi.Text

namespace Carrier

/-- The place that tells that the server is up. -/
def healthPlace : List Char := "/healthz".toList

/-- Whether a place takes requests.  An open segment or rest does not reach the place that tells
that the server is up, nor that place with a slash after it. -/
def takesRequests (requestPath : String) (place : List Char) : Bool :=
  let pattern := '/' :: requestPath.toList
  if place = healthPlace then pattern = healthPlace
  else if place = healthPlace ++ ['/'] && !startsWith healthPlace pattern then false
  else (PathPattern.ofPath pattern).covers place

/-- The number of bytes that the body of a request may have. -/
def standardLimit : Nat := 2 * 1024 * 1024

/-- What becomes of a message that reached a place for requests by its body, which must be of moderate
size and UTF-8. -/
def passageOfBody (body : ByteArray) : Passage :=
  if standardLimit < body.size then
    .turnedAway ⟨413, "Failed to buffer the request body: length limit exceeded"⟩
  else
    match Utf8.decode body with
    | .error fault =>
      .turnedAway ⟨400, "Request body didn't contain valid UTF-8: " ++ fault.message⟩
    | .ok text => .request text

/-- What becomes of a message. -/
def standardPassage (requestPath : String) (message : Message) : Passage :=
  let place := placeOf message.target.toList
  let isHealth := place = healthPlace
  let isRequest := takesRequests requestPath place
  if isHealth && message.method = "GET" then .health
  else if isHealth && message.method = "HEAD" then .turnedAway ⟨200, ""⟩
  else if isRequest && message.method = "POST" then passageOfBody message.body
  else if isHealth || isRequest then .turnedAway ⟨405, ""⟩
  else .turnedAway ⟨404, ""⟩

/-- The words that go with a status. -/
def statusWords (status : Nat) : String :=
  if status = 200 then "OK"
  else if status = 400 then "Bad Request"
  else if status = 404 then "Not Found"
  else if status = 405 then "Method Not Allowed"
  else if status = 413 then "Payload Too Large"
  else ""

/-- The carrier that the server is run with. -/
def standard : Carrier where
  target path := "/" ++ path
  passage := standardPassage
  statusText status := String.ofList (writeNat status) ++ " " ++ statusWords status

end Carrier

end RemoteUi
