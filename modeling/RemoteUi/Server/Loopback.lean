import RemoteUi.Client.Link
import RemoteUi.Server.Endpoint

/-!
# Loopback

A client and a server that are tied together: a conduit that sends each request to an endpoint and
hands its response back.  A response without success is a failure of the transport.
-/

namespace RemoteUi

open RemoteUi.Wire

/-- An endpoint with a supply of tokens. -/
structure Loopback where
  endpoint : Endpoint := {}
  /-- The tokens in the order in which they are issued. -/
  supply : Nat → Token
  /-- The number of tokens issued so far. -/
  issued : Nat := 0

namespace Loopback

/-- The next token. -/
def fresh (world : Loopback) : Token := world.supply world.issued

/-- Answers a message, and issues a token if a session was started. -/
def serve (world : Loopback) (message : Message) : Response × Loopback :=
  match world.endpoint.serve world.fresh message with
  | (response, some (.booted ..), endpoint) =>
    (response, { world with endpoint, issued := world.issued + 1 })
  | (response, _, endpoint) => (response, { world with endpoint })

/-- The message with which a client sends a request. -/
def messageOf (world : Loopback) (posting : Posting) : Message :=
  ⟨"POST", world.endpoint.carrier.target posting.path, posting.body.toUTF8⟩

/-- The fault of a client whose request got a response without success. -/
def faultOf (world : Loopback) (path : String) (status : Nat) : Fault :=
  .transport path ("server responded with " ++ world.endpoint.carrier.statusText status)

/-- The conduit to the endpoint. -/
def conduit : Conduit Loopback := fun posting world =>
  let (response, after) := world.serve (world.messageOf posting)
  if 200 ≤ response.status ∧ response.status < 300 then (.ok response.body, after)
  else (.error (world.faultOf posting.path response.status), after)

end Loopback

end RemoteUi
