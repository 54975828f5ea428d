import RemoteUi.Proofs.Session.Mirror

/-!
# Client and server agree on every request

Whether a request was taken or refused is told by the text of the answer alone: an error starts with
a mark, the token of a new session ends with a line break, and the stream without commands is a word.
None of this is ever mistaken for anything else.  Whatever was posted before, a client that reads the
answer to its request learns whether the request was taken, and if so, it has the very commands that
the program emitted.

* §1 what becomes of a request, and how the answer is read;
* §2 sessions between two requests;
* §3 the endpoints that can be reached;
* §4 answers;
* §5 the theorem;
* §6 a request that is too long.
-/

namespace RemoteUi

open RemoteUi.Text RemoteUi.Wire

/-! ## §1 Requests and answers -/

/-- The request that a body is, if it is one. -/
def requestOf? (body : ByteArray) : Option Request :=
  (String.fromUTF8? body).bind fun text => (Request.ofText text).toOption

/-- The token of the session that a request starts, if it is taken. -/
def Wire.Request.newToken? (fresh : Token) : Request → Option Token
  | .boot .. => some fresh
  | .event .. => none

/-- How a client reads the answer to its request: the token, if it is the answer to a boot, and the
commands. -/
def Wire.Request.readAnswer (answer : String) : Request →
    Except WireError (Option Token × List Line)
  | .boot .. => do
    let (token, stream) ← splitBoot answer
    let reply ← Reply.ofText stream
    return (some token, reply.lines)
  | .event .. => do
    let reply ← Reply.ofText answer
    return (none, reply.lines)

namespace Server

/-- What the sessions make of a request: they refuse it, or they have commands for the client. -/
def outcome (server : Server) (fresh : Token) : Request → Except Refusal (List Line)
  | .boot name count => (server.sessions.boot fresh (server.programFor name) count).1
  | .event token event count => (server.sessions.report token event count).1

/-- The commands that a program puts into an empty outbox for a request, if there is such a program
and if it does not refuse the request. -/
def emitted? (server : Server) : Request → Option (List Line)
  | .boot name _ =>
    (Program.launch? (server.programFor name)).map fun program =>
      (program.boot Outbox.empty).2.lines
  | .event token event _ =>
    (server.sessions.get? token).bind fun session =>
      match session.program.handle event { session.outbox with lines := [] } with
      | (.ok _, _, out) => some out.lines
      | (.error _, _, _) => none

end Server

/-- The sessions refused a request, and the answer says so. -/
structure Refused (server : Server) (fresh : Token) (request : Request) (answer : String) :
    Prop where
  refused : ∃ refusal, server.outcome fresh request = .error refusal
  marked : startsWith errorMark answer.toList
  /-- The client has the whole answer as an error. -/
  read : request.readAnswer answer = .error (.server answer)

/-- The sessions took a request, and the answer says what the program emitted. -/
structure Accepted (server : Server) (fresh : Token) (request : Request) (answer : String)
    (after : Server) (lines : List Line) : Prop where
  accepted : server.outcome fresh request = .ok lines
  emitted : server.emitted? request = some lines
  /-- The session that a boot starts is there under its token. -/
  started : ∀ token ∈ request.newToken? fresh, (after.sessions.get? token).isSome
  /-- The client has the token and the commands. -/
  read : request.readAnswer answer = .ok (request.newToken? fresh, lines)

/-- What comes of a body that is posted to a place for requests, of which the carrier takes those up
to a number of bytes. -/
structure Agreement (limit : Nat) (endpoint : Endpoint) (fresh : Token) (body : ByteArray)
    (response : Response) (after : Endpoint) : Prop where
  /-- A body that is too large does not come to the server. -/
  tooLarge : limit < body.size → response.status = 413 ∧ after = endpoint
  /-- Otherwise it is a bad request, and changes nothing, exactly if it is no request. -/
  bad : body.size ≤ limit →
    (response.status = 400 ∧ after = endpoint ↔ requestOf? body = none)
  /-- A request was refused, and the client knows it, or it was taken, and the client knows that. -/
  agreed : body.size ≤ limit → ∀ request, requestOf? body = some request →
    response.status = 200 ∧
      Xor (Refused endpoint.server fresh request response.body)
        (∃ lines, Accepted endpoint.server fresh request response.body after.server lines)

/-! ## §2 Sessions -/

/-- The programs that can be started are two. -/
theorem Program.launch?_cases {name : String} {program : Program}
    (h : launch? name = some program) : program = .hello ∨ program = .counter {} := by
  unfold launch? at h
  split at h
  · exact .inl (Option.some.inj h).symm
  · split at h
    · exact .inr (Option.some.inj h).symm
    · cases h

/-- The client reads the stream of a boot as the commands that the program emitted. -/
theorem Program.streamProper_boot {name : String} {program : Program}
    (h : launch? name = some program) : StreamProper (program.boot Outbox.empty).2.lines := by
  rcases launch?_cases h with rfl | rfl
  · -- The greeting sends three lines, which are checked one by one.
    decide +kernel
  · exact streamProper_counterLines

/-- A session between two requests: no command waits in its outbox, and a counter has the nodes that
its boot created and one of the steps that it offers. -/
structure Session.AtRest (session : Session) : Prop where
  clear : session.IsClear
  counter : ∀ counter, session.program = .counter counter →
    counter.nodes = some counterNodes ∧ counter.step ∈ Counter.steps

namespace Session

variable {session : Session} {event : Event} {program : Program} {lines : List Line}

theorem atRest_start {name : String} (h : Program.launch? name = some program) (count : UInt64) :
    (start program count).2.AtRest := by
  have hclear := isClear_start program count
  rcases Program.launch?_cases h with rfl | rfl
  · exact ⟨hclear, nofun⟩
  · have hprogram := program_start_counter count
    refine ⟨hclear, fun counter hcounter => ?_⟩
    obtain rfl := Program.counter.inj (hprogram.symm.trans hcounter)
    exact ⟨rfl, by decide⟩

/-- Only a counter takes an event. -/
theorem AtRest.takes_of_handle (h : session.AtRest)
    (hhandle : ∀ out, session.program.handle event out = (.ok (), program, out.adding lines)) :
    ∃ counter counter', session.program = .counter counter ∧ program = .counter counter' ∧
      counter.Takes counterNodes event counter' lines := by
  cases hprogram : session.program with
  | hello =>
    -- The greeting refuses every event.
    rw [hprogram] at hhandle
    cases hhandle Outbox.empty
  | counter counter =>
    rw [hprogram] at hhandle
    obtain ⟨nodes, counter', hnodes, hcounter', htakes⟩ := Counter.takes_of_handle hhandle
    obtain rfl := Option.some.inj (hnodes.symm.trans (h.counter counter hprogram).1)
    exact ⟨counter, counter', rfl, hcounter', htakes⟩

/-- **A session is at rest again after every event**, taken or refused. -/
theorem AtRest.take (h : session.AtRest) (event : Event) (count : UInt64) :
    (session.take event count).2.AtRest := by
  have htakes := session.take_takes h.clear event count
  generalize (session.take event count).1 = result at htakes
  generalize (session.take event count).2 = after at htakes ⊢
  -- A refusal changes the number of the last request at most.
  cases htakes with
  | stale => exact h
  | refused => exact ⟨h.clear, h.counter⟩
  | accepted program lines hlt hhandle =>
    obtain ⟨counter, counter', hprogram, rfl, hcounter⟩ := h.takes_of_handle hhandle
    obtain ⟨hnodes, hstep⟩ := h.counter counter hprogram
    obtain ⟨hkept, hstep'⟩ := hcounter.keeps hstep
    refine ⟨h.clear, ?_⟩
    rintro _ ⟨⟩
    exact ⟨hkept.trans hnodes, hstep'⟩

end Session

/-- All sessions are at rest. -/
def Sessions.AtRest (sessions : Sessions) : Prop :=
  ∀ token session, sessions.get? token = some session → session.AtRest

theorem Sessions.AtRest.insert {sessions : Sessions} {session : Session} (h : sessions.AtRest)
    (token : Token) (hsession : session.AtRest) :
    Sessions.AtRest (Dict.insert sessions token session) := by
  intro other found hget
  rw [Dict.get?_insert] at hget
  split at hget
  · obtain rfl := Option.some.inj hget
    exact hsession
  · exact h other found hget

/-! ## §3 The endpoints that can be reached -/

/-- Taking a request leaves all sessions at rest. -/
theorem Server.atRest_take {server : Server} (h : server.sessions.AtRest) (fresh : Token)
    (request : Request) : (server.take fresh request).2.sessions.AtRest := by
  cases request with
  | boot name count =>
    rw [take_boot]
    cases hlaunch : Program.launch? (server.programFor name) with
    | none => exact h
    | some program => exact h.insert fresh (Session.atRest_start hlaunch count)
  | event token event count =>
    rw [take_event]
    cases hget : server.sessions.get? token with
    | none => exact h
    | some session => exact h.insert token ((h token session hget).take event count)

namespace Endpoint

/-- A server that was started behind a carrier, after it has served some messages with proper tokens
for its new sessions. -/
inductive Reachable : Endpoint → Prop where
  | start (requestPath defaultProgram : String) (carrier : Carrier) :
      Reachable { requestPath, server := { defaultProgram }, carrier }
  | serve {endpoint : Endpoint} {fresh : Token} (h : Reachable endpoint)
      (hfresh : Token.Proper fresh) (message : Message) :
      Reachable (endpoint.serve fresh message).2.2

section Serve

variable (endpoint : Endpoint) (fresh : Token)

/-- **A text is a bad request, or it is a request that the server takes.** -/
theorem handle_cases (text : String) :
    ((Request.ofText text).toOption = none ∧ (endpoint.handle fresh text).1.status = 400 ∧
      (endpoint.handle fresh text).2.2 = endpoint) ∨
    ∃ request, (Request.ofText text).toOption = some request ∧ endpoint.handle fresh text =
      (⟨200, (endpoint.server.take fresh request).1.body⟩,
        some (endpoint.server.take fresh request).1,
        { endpoint with server := (endpoint.server.take fresh request).2 }) := by
  unfold handle Server.answer
  cases Request.ofText text with
  | error error => exact .inl ⟨rfl, rfl, rfl⟩
  | ok request =>
    refine .inr ⟨request, rfl, ?_⟩
    simp only [Server.status_take]

/-- **A message changes nothing, or it is a request that the server takes.** -/
theorem serve_cases (message : Message) :
    (endpoint.serve fresh message).2.2 = endpoint ∨ ∃ request,
      (endpoint.serve fresh message).2.2 =
        { endpoint with server := (endpoint.server.take fresh request).2 } := by
  unfold serve
  cases endpoint.carrier.passage endpoint.requestPath message with
  | health | turnedAway response => exact .inl rfl
  | request text =>
    rcases endpoint.handle_cases fresh text with ⟨-, -, hsame⟩ | ⟨request, -, hhandle⟩
    · exact .inl hsame
    · exact .inr ⟨request, congrArg (·.2.2) hhandle⟩

variable {endpoint} {limit : Nat} {target : String} {body : ByteArray}

/-- **A body of moderate size is a bad request, or it is a request that the server takes.** -/
theorem serve_body_cases (h : endpoint.TakesAt limit target) (hshort : body.size ≤ limit) :
    (requestOf? body = none ∧
      (endpoint.serve fresh ⟨"POST", target, body⟩).1.status = 400 ∧
      (endpoint.serve fresh ⟨"POST", target, body⟩).2.2 = endpoint) ∨
    ∃ request, requestOf? body = some request ∧ endpoint.serve fresh ⟨"POST", target, body⟩ =
      (⟨200, (endpoint.server.take fresh request).1.body⟩,
        some (endpoint.server.take fresh request).1,
        { endpoint with server := (endpoint.server.take fresh request).2 }) := by
  unfold requestOf?
  cases hbody : String.fromUTF8? body with
  | none =>
    -- A body that is no text is turned away, as a bad request.
    obtain ⟨response, hstatus, hpassage⟩ := h.noText body hshort hbody
    rw [serve_of_turnedAway fresh hpassage]
    exact .inl ⟨rfl, hstatus, rfl⟩
  | some text =>
    obtain rfl := toUTF8_of_fromUTF8? hbody
    rw [serve_text h hshort fresh]
    exact endpoint.handle_cases fresh text

end Serve

/-- **All sessions of an endpoint are at rest**, whatever it has served. -/
theorem Reachable.atRest {endpoint : Endpoint} (h : endpoint.Reachable) :
    endpoint.server.sessions.AtRest := by
  induction h with
  | start requestPath defaultProgram carrier =>
    intro token session hget
    rw [Dict.get?_empty] at hget
    cases hget
  | @serve endpoint fresh _ _ message ih =>
    rcases endpoint.serve_cases fresh message with heq | ⟨request, heq⟩
    · rw [heq]
      exact ih
    · rw [heq]
      exact Server.atRest_take ih fresh request

end Endpoint

/-! ## §4 Answers -/

/-- How a server answers a request of which its sessions make this. -/
def Wire.Request.answer (fresh : Token) : Request → Except Refusal (List Line) → Answer
  | _, .error refusal => .refused refusal
  | .boot .., .ok lines => .booted fresh lines
  | .event .., .ok lines => .accepted lines

section Answers

variable {server : Server} {fresh : Token} {request : Request} {lines : List Line}

/-- The client reads the answer to a refused request as an error. -/
theorem Wire.Request.readAnswer_refused (request : Request) (refusal : Refusal) :
    request.readAnswer (Answer.refused refusal).body =
      .error (.server (Answer.refused refusal).body) := by
  cases request with
  | boot =>
    rw [readAnswer, splitBoot_refused]
    rfl
  | event =>
    rw [readAnswer, ofText_refused]
    rfl

/-- The client reads the answer to a request that was taken as it was meant. -/
theorem Wire.Request.readAnswer_accepted (request : Request) (hfresh : Token.Proper fresh)
    (hlines : StreamProper lines) :
    request.readAnswer (request.answer fresh (.ok lines)).body =
      .ok (request.newToken? fresh, lines) := by
  have hreply := Reply.ofText_streamText hlines
  cases request with
  | boot =>
    have hsplit := splitBoot_frameBoot hfresh (streamText lines)
    rw [readAnswer, answer, Answer.body, hsplit]
    change (Reply.ofText (streamText lines) >>= fun reply => _) = _
    rw [hreply]
    rfl
  | event =>
    rw [readAnswer, answer, Answer.body, hreply]
    rfl

namespace Server

/-- A server answers what its sessions make of a request. -/
theorem fst_take (server : Server) (fresh : Token) (request : Request) :
    (server.take fresh request).1 = request.answer fresh (server.outcome fresh request) := by
  cases request with
  | boot name count =>
    simp only [take, outcome]
    generalize server.sessions.boot fresh (server.programFor name) count = made
    obtain ⟨result, sessions⟩ := made
    cases result <;> rfl
  | event token event count =>
    simp only [take, outcome]
    generalize server.sessions.report token event count = made
    obtain ⟨result, sessions⟩ := made
    cases result <;> rfl

/-- What the sessions have for the client was emitted by the program, and it makes a proper
stream. -/
theorem emitted?_of_outcome (hrest : server.sessions.AtRest)
    (h : server.outcome fresh request = .ok lines) :
    server.emitted? request = some lines ∧ StreamProper lines := by
  cases request with
  | boot name count =>
    simp only [outcome, Sessions.boot] at h
    cases hlaunch : Program.launch? (server.programFor name) with
    | none =>
      rw [hlaunch] at h
      cases h
    | some program =>
      rw [hlaunch] at h
      obtain rfl := Except.ok.inj h
      exact ⟨by rw [emitted?, hlaunch]; rfl, Program.streamProper_boot hlaunch⟩
  | event token event count =>
    simp only [outcome, Sessions.report] at h
    cases hget : server.sessions.get? token with
    | none =>
      rw [hget] at h
      cases h
    | some session =>
      rw [hget] at h
      have hsession := hrest token session hget
      have htakes := session.take_takes hsession.clear event count
      dsimp only at h
      -- Of the ways in which a session takes an event only one has commands.
      rw [h] at htakes
      generalize (session.take event count).2 = after at htakes
      cases htakes with
      | accepted program lines hlt hhandle =>
        obtain ⟨counter, counter', -, -, hcounter⟩ := hsession.takes_of_handle hhandle
        refine ⟨?_, hcounter.streamProper⟩
        simp only [emitted?, hget, Option.bind_some, hhandle, Outbox.adding, List.nil_append]

/-- A boot that is taken has started a session. -/
theorem started_of_outcome (h : server.outcome fresh request = .ok lines) :
    ∀ token ∈ request.newToken? fresh,
      ((server.take fresh request).2.sessions.get? token).isSome := by
  intro token htoken
  cases request with
  | boot name count =>
    obtain rfl := Option.some.inj htoken
    rw [take_boot]
    cases hlaunch : Program.launch? (server.programFor name) with
    | none =>
      simp only [outcome, Sessions.boot, hlaunch] at h
      cases h
    | some program => exact Option.isSome_of_mem (Dict.get?_insert_self ..)
  | event => cases htoken

/-- **The client knows of every refusal.** -/
theorem refused_of_outcome {refusal : Refusal} (h : server.outcome fresh request = .error refusal) :
    Refused server fresh request (server.take fresh request).1.body := by
  have hanswer : (server.take fresh request).1 = .refused refusal := by
    rw [fst_take, h, Request.answer]
  rw [hanswer]
  exact ⟨⟨refusal, h⟩, startsWith_errorMark_refused refusal, request.readAnswer_refused refusal⟩

/-- **The client knows of every request that was taken**, and has the commands of the program. -/
theorem accepted_of_outcome (hrest : server.sessions.AtRest) (hfresh : Token.Proper fresh)
    (h : server.outcome fresh request = .ok lines) :
    Accepted server fresh request (server.take fresh request).1.body
      (server.take fresh request).2 lines := by
  obtain ⟨hemitted, hlines⟩ := emitted?_of_outcome hrest h
  refine ⟨h, hemitted, started_of_outcome h, ?_⟩
  rw [fst_take, h]
  exact request.readAnswer_accepted hfresh hlines

end Server

end Answers

/-! ## §5 The theorem -/

/-- **Client and server agree on every request.**  Whatever was posted before, a body that is posted
to a place for requests is a bad request exactly if it is no request; and if it is one, the client
reads the answer as the refusal that it is, or as the token and the very commands of the program.
A body with more bytes than the carrier takes does not come to the server. -/
theorem Endpoint.Reachable.agreement {endpoint : Endpoint} (h : endpoint.Reachable) {fresh : Token}
    (hfresh : Token.Proper fresh) {limit : Nat} {target : String}
    (htarget : endpoint.TakesAt limit target) (body : ByteArray) :
    Agreement limit endpoint fresh body (endpoint.serve fresh ⟨"POST", target, body⟩).1
      (endpoint.serve fresh ⟨"POST", target, body⟩).2.2 := by
  constructor
  case tooLarge =>
    intro hlong
    obtain ⟨response, hstatus, hserve⟩ := serve_tooLarge htarget hlong fresh
    rw [hserve]
    exact ⟨hstatus, rfl⟩
  case bad =>
    intro hshort
    rcases serve_body_cases fresh htarget hshort with ⟨hnone, hbad⟩ | ⟨request, hrequest, hserve⟩
    · exact iff_of_true hbad hnone
    · -- A request is answered with another status.
      refine iff_of_false ?_ ?_
      · rw [hserve]
        rintro ⟨hstatus, -⟩
        cases hstatus
      · rw [hrequest]
        exact Option.some_ne_none request
  case agreed =>
    intro hshort request hrequest
    rcases serve_body_cases fresh htarget hshort with ⟨hnone, -⟩ | ⟨found, hfound, hserve⟩
    · cases hnone.symm.trans hrequest
    obtain rfl := Option.some.inj (hfound.symm.trans hrequest)
    rw [hserve]
    refine ⟨rfl, ?_⟩
    -- What the sessions made of the request decides which of the two it is, and excludes the other.
    cases houtcome : endpoint.server.outcome fresh found with
    | error refusal =>
      refine .inl ⟨Server.refused_of_outcome houtcome, ?_⟩
      rintro ⟨lines, haccepted⟩
      cases houtcome.symm.trans haccepted.accepted
    | ok lines =>
      refine .inr ⟨⟨lines, Server.accepted_of_outcome h.atRest hfresh houtcome⟩, ?_⟩
      rintro ⟨⟨refusal, hrefusal⟩, -, -⟩
      cases houtcome.symm.trans hrefusal

/-- A new endpoint behind the standard carrier has a place for requests. -/
theorem Endpoint.reachable_new :
    Reachable {} ∧ Token.Proper "s" ∧ TakesAt {} Carrier.standardLimit "/xul" := by
  have htoken : Token.Proper "s" := ⟨by decide, by decide, by decide⟩
  exact ⟨.start "xul" helloName .standard, htoken,
    Carrier.takesAt_standard_target (by decide) (by decide)⟩

/-- The request that boots a counter. -/
def counterBody : ByteArray := (bootDocument (some counterName) 1).text.toUTF8

/-- A counter is booted on a new endpoint. -/
theorem Endpoint.agreement_counterBody :
    Reachable {} ∧ Token.Proper "s" ∧ TakesAt {} Carrier.standardLimit "/xul" ∧
      Agreement Carrier.standardLimit {} "s" counterBody
        (serve {} "s" ⟨"POST", "/xul", counterBody⟩).1
        (serve {} "s" ⟨"POST", "/xul", counterBody⟩).2.2 := by
  obtain ⟨hreachable, htoken, htarget⟩ := reachable_new
  exact ⟨hreachable, htoken, htarget, hreachable.agreement htoken htarget counterBody⟩

/-! ## §6 A request that is too long -/

/-- A click with a check mark. -/
def markedClick (mark : String) : Event :=
  { kind := .click, source := "E3", checked := some mark, extra := ∅ }

/-- The request that reports it. -/
def markedClickDocument (mark : String) : Document :=
  { fields := eventFields (markedClick mark) "s" 1 }

theorem eventDocument_markedClick (mark : String) :
    eventDocument (markedClick mark) "s" 1 = .ok (markedClickDocument mark) := by
  refine eventDocument_of_writable ?_ "s" 1
  intro key hkey
  cases hkey

/-- The report of a click is a request, whatever its check mark is. -/
theorem requestOf?_markedClick (mark : String) :
    requestOf? (markedClickDocument mark).text.toUTF8 =
      some (.event "s" (markedClick mark) 1) := by
  have hread := Request.ofText_eventDocument (eventDocument_markedClick mark)
  rw [requestOf?, fromUTF8?_toUTF8, Option.bind_some, hread]
  rfl

/-- **Whatever the limit of a carrier is, some request does not come to the server**: the report of a
click is turned away if the check mark is as long as a whole request. -/
theorem Endpoint.status_markedClick {endpoint : Endpoint} {limit : Nat} {target mark : String}
    (htarget : endpoint.TakesAt limit target) (hlong : limit ≤ mark.length) (fresh : Token) :
    (endpoint.serve fresh ⟨"POST", target, (markedClickDocument mark).text.toUTF8⟩).1.status =
      413 := by
  have hlength := length_lt_of_eventDocument (eventDocument_markedClick mark) rfl
  have hsize : limit < (markedClickDocument mark).text.toUTF8.size :=
    Nat.lt_of_le_of_lt hlong hlength
  obtain ⟨response, hstatus, hserve⟩ := serve_tooLarge htarget hsize fresh
  rw [hserve, hstatus]

/-- **A request is not always answered**: the report of such a click is a request, but the sessions
never hear of it, and the status is not the one of an answer. -/
theorem Endpoint.not_answered_markedClick :
    Reachable {} ∧ Token.Proper "s" ∧ TakesAt {} Carrier.standardLimit "/xul" ∧
      requestOf? (markedClickDocument longMark).text.toUTF8 =
        some (.event "s" (markedClick longMark) 1) ∧
      (serve {} "s" ⟨"POST", "/xul", (markedClickDocument longMark).text.toUTF8⟩).1.status =
        413 := by
  obtain ⟨hreachable, htoken, htarget⟩ := reachable_new
  exact ⟨hreachable, htoken, htarget, requestOf?_markedClick longMark,
    status_markedClick htarget length_longMark.ge "s"⟩

end RemoteUi
