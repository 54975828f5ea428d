import RemoteUi.Proofs.Client.Links
import RemoteUi.Proofs.Server.Programs
import RemoteUi.Server.Loopback

/-!
# Messages with requests

What becomes of a text that a client posts to the endpoint: the server answers it, or the carrier
turns it away and the server is not asked.

* §1 the endpoint;
* §2 the loopback;
* §3 reports over the loopback.
-/

namespace RemoteUi

open RemoteUi.Text RemoteUi.Wire

/-! ## §1 The endpoint -/

namespace Endpoint

variable {endpoint : Endpoint} {limit : Nat} {target text : String} {body : ByteArray}

/-- A target is a place for the requests of an endpoint. -/
def TakesAt (endpoint : Endpoint) (limit : Nat) (target : String) : Prop :=
  endpoint.carrier.TakesAt limit endpoint.requestPath target

/-- The carrier of an endpoint does what its documentation says of the path of the endpoint. -/
def Documented (endpoint : Endpoint) (limit : Nat) : Prop :=
  endpoint.carrier.Documented limit endpoint.requestPath

/-- What the carrier turns away is answered by the carrier, and changes nothing. -/
theorem serve_of_turnedAway {message : Message} {response : Response} (fresh : Token)
    (h : endpoint.carrier.passage endpoint.requestPath message = .turnedAway response) :
    endpoint.serve fresh message = (response, none, endpoint) := by
  rw [serve, h]

/-- The server answers every text that is posted to a place for requests, unless it is too large. -/
theorem serve_text (h : endpoint.TakesAt limit target) (hshort : text.utf8ByteSize ≤ limit)
    (fresh : Token) :
    endpoint.serve fresh ⟨"POST", target, text.toUTF8⟩ = endpoint.handle fresh text := by
  rw [serve, h.handsOver text hshort]

/-- A body that is too large is turned away. -/
theorem serve_tooLarge (h : endpoint.TakesAt limit target) (hlong : limit < body.size)
    (fresh : Token) : ∃ response, response.status = 413 ∧
      endpoint.serve fresh ⟨"POST", target, body⟩ = (response, none, endpoint) := by
  obtain ⟨response, hstatus, hpassage⟩ := h.tooLarge body hlong
  exact ⟨response, hstatus, serve_of_turnedAway fresh hpassage⟩

/-- **What clients post is answered by the server, or turned away with a status that tells so.** -/
theorem serve_post_cases (h : endpoint.Documented limit) (path : String) (fresh : Token)
    (text : String) :
    endpoint.serve fresh ⟨"POST", endpoint.carrier.target path, text.toUTF8⟩ =
        endpoint.handle fresh text ∨
      ∃ response, (response.status = 404 ∨ response.status = 405 ∨ response.status = 413) ∧
        endpoint.serve fresh ⟨"POST", endpoint.carrier.target path, text.toUTF8⟩ =
          (response, none, endpoint) := by
  rcases h path with htakes | hrefuses
  · have htakes : endpoint.TakesAt limit (endpoint.carrier.target path) := htakes
    rcases Nat.lt_or_ge limit text.utf8ByteSize with hlong | hshort
    · have hlarge : limit < text.toUTF8.size := hlong
      obtain ⟨response, hstatus, hserve⟩ := serve_tooLarge htakes hlarge fresh
      exact .inr ⟨response, .inr (.inr hstatus), hserve⟩
    · exact .inl (serve_text htakes hshort fresh)
  · obtain ⟨response, hstatus, hpassage⟩ := hrefuses text.toUTF8
    exact .inr ⟨response, hstatus.imp_right .inl, serve_of_turnedAway fresh hpassage⟩

end Endpoint

/-! ## §2 The loopback -/

namespace Loopback

variable (world : Loopback)

/-- The sessions of the server. -/
def sessions : Sessions := world.endpoint.server.sessions

/-- The loopback with other sessions on its server. -/
def withSessions (sessions : Sessions) : Loopback :=
  { world with
    endpoint := { world.endpoint with server := { world.endpoint.server with sessions } } }

/-- What the endpoint makes of a posting. -/
def hear (posting : Posting) : Response × Option Answer × Endpoint :=
  world.endpoint.serve world.fresh (world.messageOf posting)

/-- What clients post to a path comes to a place for requests. -/
def Routes (limit : Nat) (path : String) : Prop :=
  world.endpoint.TakesAt limit (world.endpoint.carrier.target path)

/-- What becomes of a request that the server takes, with the loopback afterwards. -/
def take (request : Request) : Answer × Loopback :=
  match world.endpoint.server.take world.fresh request with
  | (.booted token lines, server) =>
    (.booted token lines,
      { world with endpoint := { world.endpoint with server }, issued := world.issued + 1 })
  | (answer, server) => (answer, { world with endpoint := { world.endpoint with server } })

/-- A boot that is not refused uses the next token up. -/
theorem take_boot (name : Option String) (count : UInt64) :
    world.take (.boot name count) =
      match Program.launch? (world.endpoint.server.programFor name) with
      | none => (.refused (.unknownProgram (world.endpoint.server.programFor name)), world)
      | some program => (.booted world.fresh (Session.start program count).1,
          { world.withSessions
              (world.sessions.insert world.fresh (Session.start program count).2) with
            issued := world.issued + 1 }) := by
  rw [take, Server.take_boot]
  cases Program.launch? (world.endpoint.server.programFor name) <;> rfl

/-- An event changes its session at most. -/
theorem take_event (token : Token) (event : Event) (count : UInt64) :
    world.take (.event token event count) =
      match world.sessions.get? token with
      | none => (.refused (.unknownSession token), world)
      | some session => (Answer.ofReport (session.take event count).1,
          world.withSessions (world.sessions.insert token (session.take event count).2)) := by
  rw [take, Server.take_event, sessions]
  cases world.endpoint.server.sessions.get? token with
  | none => rfl
  | some session =>
    dsimp only
    cases (session.take event count).1 <;> rfl

variable {world} {posting : Posting} {limit : Nat}

/-- A posting to a place for requests is answered by the server, unless it is too long. -/
theorem hear_of_short (h : world.Routes limit posting.path)
    (hshort : posting.body.utf8ByteSize ≤ limit) :
    world.hear posting = world.endpoint.handle world.fresh posting.body :=
  Endpoint.serve_text h hshort world.fresh

theorem hear_of_long (h : world.Routes limit posting.path)
    (hlong : limit < posting.body.utf8ByteSize) :
    ∃ response, response.status = 413 ∧ world.hear posting = (response, none, world.endpoint) := by
  have hlarge : limit < posting.body.toUTF8.size := hlong
  exact Endpoint.serve_tooLarge h hlarge world.fresh

/-- A posting that the server answers comes back with the answer. -/
theorem conduit_of_answered {request : Request}
    (hhear : world.hear posting = world.endpoint.handle world.fresh posting.body)
    (hrequest : Request.ofText posting.body = .ok request) :
    conduit posting world = (.ok (world.take request).1.body, (world.take request).2) ∧
      (world.hear posting).1.status = 200 ∧
      (world.hear posting).2.1 = some (world.take request).1 := by
  have hstatus := world.endpoint.server.status_take world.fresh request
  have hserve := hhear
  unfold hear at hserve
  simp only [Endpoint.handle, Server.answer, hrequest] at hserve hhear
  simp only [conduit, serve, hserve, hhear, take]
  generalize world.endpoint.server.take world.fresh request = outcome at hstatus ⊢
  obtain ⟨answer, server⟩ := outcome
  cases answer with
  | undecodable error => cases hstatus
  | refused | booted | accepted => exact ⟨rfl, rfl, rfl⟩

/-- A posting that the endpoint turns away is a failure of the transport, and changes nothing. -/
theorem conduit_of_turnedAway {response : Response}
    (hhear : world.hear posting = (response, none, world.endpoint))
    (hstatus : ¬(200 ≤ response.status ∧ response.status < 300)) :
    conduit posting world = (.error (world.faultOf posting.path response.status), world) := by
  unfold hear at hhear
  simp only [conduit, serve, hhear, hstatus, ↓reduceIte]

end Loopback

/-! ## §3 Reports -/

namespace Link

variable {link : Link} {world : Loopback} {event : Event} {doc : Document} {limit : Nat}

/-- An event whose request is too long is turned away, but counted. -/
theorem report_of_tooLong (hdoc : link.eventRequest event = .ok doc)
    (hroute : world.Routes limit link.path) (hlong : limit < doc.text.utf8ByteSize) :
    link.report Loopback.conduit event world =
      (.error (world.faultOf link.path 413), link.advance, world) := by
  have hposting : world.Routes limit (link.posting doc).path := hroute
  obtain ⟨response, hstatus, hhear⟩ := Loopback.hear_of_long hposting hlong
  rw [report_of_ok hdoc]
  dsimp only
  rw [Loopback.conduit_of_turnedAway hhear (by omega), hstatus]
  rfl

/-- An event that reaches its session is answered by the session. -/
theorem report_of_session {token : Token} {session : Session}
    (hdoc : link.eventRequest event = .ok doc) (hroute : world.Routes limit link.path)
    (hshort : doc.text.utf8ByteSize ≤ limit) (htoken : link.session = some token)
    (hget : world.sessions.get? token = some session) :
    link.report Loopback.conduit event world =
      ((Reply.ofText (Answer.ofReport (session.take event link.next).1).body).mapError .wire,
        link.advance,
        world.withSessions (world.sessions.insert token (session.take event link.next).2)) := by
  obtain ⟨addressee, haddressee, hread⟩ := ofText_eventRequest hdoc
  obtain rfl : token = addressee := Option.some.inj (htoken.symm.trans haddressee)
  have hposting : world.Routes limit (link.posting doc).path := hroute
  obtain ⟨hconduit, -, -⟩ :=
    Loopback.conduit_of_answered (Loopback.hear_of_short hposting hshort) hread
  rw [Loopback.take_event, hget] at hconduit
  rw [report_of_ok hdoc]
  dsimp only
  rw [hconduit]
  rfl

end Link

end RemoteUi
