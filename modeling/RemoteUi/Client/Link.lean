import RemoteUi.Client.Fault
import RemoteUi.Wire.Reply
import RemoteUi.Wire.Request

/-!
# The link to the server

The client's half of a session: the token, the numbering of requests, and the exchange of one
request for one reply.

* §1 a *line to the world* is anything that answers requests, or fails to;
* §2 the link and what it sends;
* §3 the two exchanges.
-/

namespace RemoteUi

open RemoteUi.Wire

/-! ## §1 Conduits -/

/-- A request on its way: the path it is sent to and its body. -/
structure Posting where
  path : String
  body : String
  deriving DecidableEq, Repr

/-- Something that answers requests.  What it answers may depend on a world of its own, which the
exchange changes. -/
abbrev Conduit (World : Type) := Posting → World → Except Fault String × World

/-! ## §2 Links -/

/-- The path that requests go to unless another one is configured. -/
def defaultPath : String := "xul"

/-- The client's half of a session. -/
structure Link where
  path : String := defaultPath
  /-- The program that boot requests name: the one named last. -/
  program : Option String := none
  session : Option Token := none
  /-- The number of requests sent so far. -/
  count : UInt64 := 0
  deriving DecidableEq, Repr

namespace Link

/-- A link over which nothing was sent yet. -/
def new : Link := {}

instance : Inhabited Link := ⟨new⟩

/-- A request as it is handed to a conduit. -/
def posting (link : Link) (doc : Document) : Posting := ⟨link.path, doc.text⟩

/-- The number of the next request. -/
def next (link : Link) : UInt64 := link.count + 1

/-- The link after one more request was sent. -/
def advance (link : Link) : Link := { link with count := link.next }

/-- The link after a boot request named a program. -/
def naming (link : Link) (program : Option String) : Link :=
  { link with program := program.or link.program }

/-- The request document of a boot. -/
def bootRequest (link : Link) : Document := bootDocument link.program link.next

/-- The request document of an event, provided that there is a session and that the event can be
written. -/
def eventRequest (link : Link) (event : Event) : Except Fault Document :=
  match link.session with
  | none => .error .noSession
  | some session => (eventDocument event session link.next).mapError .wire

/-! ## §3 Exchanges -/

/-- Takes in the answer to a boot request: the token is kept even if the stream after it cannot be
read. -/
def receiveBoot (link : Link) (answer : String) : Except Fault Reply × Link :=
  match splitBoot answer with
  | .error e => (.error (.wire e), link)
  | .ok (token, stream) =>
    ((Reply.ofText stream).mapError .wire, { link with session := some token })

/-- Boots a program: a new session starts with the reply. -/
def boot {World : Type} (conduit : Conduit World) (program : Option String) (link : Link)
    (world : World) : Except Fault Reply × Link × World :=
  let link := link.naming program
  match conduit (link.posting link.bootRequest) world with
  -- A request counts as sent even if nothing came back.
  | (.error fault, world) => (.error fault, link.advance, world)
  | (.ok answer, world) =>
    let (reply, link) := link.advance.receiveBoot answer
    (reply, link, world)

/-- Reports an event.  An event that cannot be sent changes nothing. -/
def report {World : Type} (conduit : Conduit World) (event : Event) (link : Link)
    (world : World) : Except Fault Reply × Link × World :=
  match link.eventRequest event with
  | .error fault => (.error fault, link, world)
  | .ok doc =>
    match conduit (link.posting doc) world with
    | (.error fault, world) => (.error fault, link.advance, world)
    | (.ok answer, world) => ((Reply.ofText answer).mapError .wire, link.advance, world)

end Link

end RemoteUi
