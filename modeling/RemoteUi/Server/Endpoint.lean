import RemoteUi.Server.Answer
import RemoteUi.Server.StandardCarrier

/-!
# The endpoint of the server

How the server is reached: a carrier hands it the texts of requests, and takes its answers back.
-/

namespace RemoteUi

open RemoteUi.Wire

/-- A server behind a carrier. -/
structure Endpoint where
  /-- The path that takes requests, without the slash before it. -/
  requestPath : String := "xul"
  server : Server := {}
  carrier : Carrier := .standard

namespace Endpoint

/-- Answers the text of a request. -/
def handle (endpoint : Endpoint) (fresh : Token) (text : String) :
    Response × Option Answer × Endpoint :=
  let (answer, server) := endpoint.server.answer fresh text
  (⟨answer.status, answer.body⟩, some answer, { endpoint with server })

/-- Answers a message.  If it was a request, what became of the request comes with the response. -/
def serve (endpoint : Endpoint) (fresh : Token) (message : Message) :
    Response × Option Answer × Endpoint :=
  match endpoint.carrier.passage endpoint.requestPath message with
  | .request text => endpoint.handle fresh text
  | .health => (⟨200, "ok"⟩, none, endpoint)
  | .turnedAway response => (response, none, endpoint)

end Endpoint

end RemoteUi
