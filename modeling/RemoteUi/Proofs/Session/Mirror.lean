import RemoteUi.Proofs.Client.Reports
import RemoteUi.Proofs.Server.Carriers
import RemoteUi.Proofs.Server.Messages
import RemoteUi.Proofs.Session.CounterWindow

/-!
# A window mirrors the counter on the server

A client has booted a counter.  From now on the user clicks, selects and edits as he likes, and the
page sets check marks.  Whatever happens, in whatever order, the window shows the count and the step
that the server has, and both are what the accepted clicks and selections amount to.

* §1 a client and its server, and what happens to them;
* §2 what the window and the counter ought to be;
* §3 the invariant;
* §4 the boot;
* §5 one action;
* §6 the theorem;
* §7 a check mark that is too long.
-/

namespace RemoteUi

open RemoteUi.Text RemoteUi.Wire

/-! ## §1 Histories -/

/-- A client together with the server that it talks to. -/
structure Duo where
  client : Client
  world : Loopback

/-- What happens to a client. -/
inductive Action where
  | fire (interaction : Interaction)
  /-- The user selects an entry. -/
  | select (node : Handle) (index : Int)
  /-- The check mark of an element is set. -/
  | check (node : Handle) (value : String)

/-- An action with what came of it. -/
structure Moment where
  before : Duo
  action : Action
  result : Except Fault (Option Event)
  after : Duo

namespace Duo

/-- Carries out an action. -/
def act (duo : Duo) : Action → Except Fault (Option Event) × Duo
  | .fire interaction =>
    let (result, client, world) := duo.client.fire Loopback.conduit interaction duo.world
    (result, { client, world })
  | .select node index =>
    let tree := (duo.client.tree.userSelect node index).2
    (.ok none, { duo with client := { duo.client with tree } })
  | .check node value =>
    let tree := duo.client.tree.afterSetAttribute node "checked" value
    (.ok none, { duo with client := { duo.client with tree } })

/-- The moment of an action. -/
def moment (duo : Duo) (action : Action) : Moment :=
  ⟨duo, action, (duo.act action).1, (duo.act action).2⟩

/-- The client and the server after some actions, the latest of which stands first. -/
def after (duo : Duo) : List Action → Duo
  | [] => duo
  | action :: earlier => ((duo.after earlier).act action).2

/-- The moments of some actions, the latest first. -/
def history (duo : Duo) : List Action → List Moment
  | [] => []
  | action :: earlier => (duo.after earlier).moment action :: duo.history earlier

end Duo

/-! ## §2 What ought to be -/

/-- The counter of a session. -/
def Loopback.counter? (world : Loopback) (token : Token) : Option Counter :=
  (world.sessions.get? token).bind fun session =>
    match session.program with
    | .counter counter => some counter
    | .hello => none

namespace Moment

/-- The event that was reported and accepted. -/
def accepted? (moment : Moment) : Option Event :=
  match moment.result with
  | .ok event? => event?
  | .error _ => none

/-- An accepted click of the button. -/
def isIncrement (moment : Moment) : Bool :=
  moment.accepted?.any fun event => event.kind = .click && event.source = "E3"

/-- An accepted click of the check box while it was checked. -/
def isReset (moment : Moment) : Bool :=
  moment.accepted?.any fun event =>
    event.kind = .click && event.source = "E9" && event.checked = some "true"

/-- An accepted selection. -/
def isSelection (moment : Moment) : Bool :=
  moment.accepted?.any fun event => event.kind = .select

/-- The step in force. -/
def step (token : Token) (moment : Moment) : Int64 :=
  ((moment.before.world.counter? token).map (·.step)).getD 0

/-- The request that goes out, if the action makes one. -/
def request? (moment : Moment) : Option Document :=
  match moment.action with
  | .fire interaction =>
    (moment.before.client.tree.report? interaction).bind fun event =>
      (moment.before.client.link.eventRequest event).toOption
  | _ => none

/-- Whether the request is longer than the carrier takes. -/
def isTooLong (limit : Nat) (moment : Moment) : Bool :=
  moment.request?.any fun doc => limit < doc.text.utf8ByteSize

/-- What may come of an interaction.  A request that is too long is turned away; otherwise the
answer is accepted, or it is an error of the server's and leaves the window alone. -/
structure Answered (limit : Nat) (moment : Moment) : Prop where
  tooLong : moment.isTooLong limit → moment.after.client.tree = moment.before.client.tree ∧
    moment.after.world = moment.before.world ∧
    moment.result = .error (moment.before.world.faultOf moment.before.client.link.path 413)
  answered : moment.isTooLong limit = false → (∃ event?, moment.result = .ok event?) ∨
    moment.after.client.tree = moment.before.client.tree ∧
      ∃ refusal, moment.result = .error (.wire (.server (Answer.refused refusal).body))

end Moment

/-- The count that a history amounts to: the steps in force at the accepted clicks of the button
since the last accepted reset. -/
def countOf (token : Token) (history : List Moment) : Int :=
  (((history.takeWhile fun moment => !moment.isReset).filter (·.isIncrement)).map
    fun moment => (moment.step token).toInt).foldr (· + ·) 0

/-- The count that a history amounts to was within 64 bits at all times. -/
def CountFits (token : Token) (history : List Moment) : Prop :=
  ∀ past, past <:+ history → countOf token past < signedSize

/-- The label that a history amounts to: it tells the step once there was an accepted selection. -/
def labelOf (history : List Moment) (step : Int64) : String :=
  if history.any (·.isSelection) then "Increment by " ++ Counter.numberText step else "Increment"

/-- An element that is found by its id shows a value. -/
def Tree.ShowsAt (tree : Tree) (id : NodeId) (key value : String) : Prop :=
  ∃ node, tree.lookup? id = some node ∧ tree.attribute? node key = some value

/-- The window mirrors the counter, and the counter is what the history amounts to. -/
structure Mirrors (limit : Nat) (token : Token) (history : List Moment) (duo : Duo)
    (counter : Counter) : Prop where
  session : duo.client.link.session = some token
  there : duo.world.counter? token = some counter
  display : duo.client.tree.ShowsAt "E2" "value" (Counter.numberText counter.count)
  button : duo.client.tree.ShowsAt "E3" "label" (labelOf history counter.step)
  offered : counter.step = 1 ∨ counter.step = 5 ∨ counter.step = 10
  count : counter.count.toInt = countOf token history
  /-- Every interaction so far was answered as it ought to be. -/
  answers : ∀ moment ∈ history, ∀ interaction, moment.action = .fire interaction →
    moment.Answered limit

/-! ## §3 The invariant -/

/-- A client is in touch with a counter: its link has the session of the counter, it reaches the
server, and its window displays the count and a label. -/
structure InTouch (limit : Nat) (token : Token) (counter : Counter) (label : String) (duo : Duo) :
    Prop where
  live : duo.client.isSimulation = false
  session : duo.client.link.session = some token
  routed : duo.world.Routes limit duo.client.link.path
  window : duo.client.builder.window = some "E1"
  there : ∃ session, duo.world.sessions.get? token = some session ∧ session.IsClear ∧
    session.program = .counter counter
  nodes : counter.nodes = some counterNodes
  step : counter.step ∈ Counter.steps
  displays : duo.client.tree.Displays counter.count label

namespace InTouch

variable {limit : Nat} {token : Token} {counter counter' : Counter} {label label' : String}
  {duo : Duo}

theorem counter?_eq (h : InTouch limit token counter label duo) :
    duo.world.counter? token = some counter := by
  obtain ⟨session, hget, -, hprogram⟩ := h.there
  simp only [Loopback.counter?, hget, Option.bind_some, hprogram]

/-- Edits of the window that do not show. -/
theorem edit (h : InTouch limit token counter label duo) {tree : Tree}
    (htree : tree.Displays counter.count label) :
    InTouch limit token counter label { duo with client := { duo.client with tree } } :=
  { h with displays := htree }

/-- The session took a request, or refused it, and the window displays what has become of it. -/
theorem exchanged (h : InTouch limit token counter label duo) {client : Client} {session : Session}
    (hlive : client.isSimulation = false) (hlink : client.link = duo.client.link.advance)
    (hwindow : client.builder.window = some "E1") (hclear : session.IsClear)
    (hprogram : session.program = .counter counter') (hnodes : counter'.nodes = some counterNodes)
    (hstep : counter'.step ∈ Counter.steps) (htree : client.tree.Displays counter'.count label') :
    InTouch limit token counter' label'
      { client, world := duo.world.withSessions (duo.world.sessions.insert token session) } where
  live := hlive
  session := by rw [hlink]; exact h.session
  routed := by rw [hlink]; exact h.routed
  window := hwindow
  there := ⟨session, Dict.get?_insert_self .., hclear, hprogram⟩
  nodes := hnodes
  step := hstep
  displays := htree

end InTouch

/-! ## §4 The boot -/

section Boot

variable {limit : Nat} {link : Link} {world : Loopback}

/-- A boot of a counter that the carrier does not turn away starts a session of a new counter. -/
theorem Link.boot_counter (htoken : Token.Proper world.fresh) (hroute : world.Routes limit link.path)
    (hshort : (link.naming (some counterName)).bootRequest.text.utf8ByteSize ≤ limit) :
    link.boot Loopback.conduit (some counterName) world =
      (.ok ⟨streamText counterLines, counterLines⟩,
        { (link.naming (some counterName)).advance with session := some world.fresh },
        { world.withSessions (world.sessions.insert world.fresh
            (Session.start (.counter {}) link.next).2) with issued := world.issued + 1 }) := by
  -- The request reaches the server, which reads it as the boot that was meant.
  have hposting : world.Routes limit ((link.naming (some counterName)).posting
      (link.naming (some counterName)).bootRequest).path := hroute
  obtain ⟨hconduit, -, -⟩ := Loopback.conduit_of_answered
    (Loopback.hear_of_short hposting hshort) (link.naming (some counterName)).ofText_bootRequest
  have hprogram : world.endpoint.server.programFor (link.naming (some counterName)).program =
      counterName := rfl
  have hlaunch : Program.launch? counterName = some (.counter {}) := by decide
  rw [Loopback.take_boot, hprogram, hlaunch] at hconduit
  simp only [lines_start_counter] at hconduit
  rw [Link.boot_of_answer _ _ _ hconduit (splitBoot_frameBoot htoken (streamText counterLines))
    (Reply.ofText_streamText streamProper_counterLines)]
  rfl

/-- A boot that succeeds was not turned away. -/
theorem Link.taken_of_boot (hcarrier : world.endpoint.Documented limit)
    {program : Option String} {reply : Reply} {link' : Link} {world' : Loopback}
    (h : link.boot Loopback.conduit program world = (.ok reply, link', world')) :
    world.Routes limit link.path ∧
      (link.naming program).bootRequest.text.utf8ByteSize ≤ limit := by
  -- A boot that comes back with a reply was not a failure of the transport.
  have hheard : ∀ response, world.hear ((link.naming program).posting
      (link.naming program).bootRequest) = (response, none, world.endpoint) →
      200 ≤ response.status ∧ response.status < 300 := by
    intro response hhear
    by_contra hstatus
    rw [Link.boot_of_error _ _ _ (Loopback.conduit_of_turnedAway hhear hstatus)] at h
    cases h
  rcases hcarrier link.path with htakes | hrefuses
  · refine ⟨htakes, Nat.le_of_not_lt fun hlong => ?_⟩
    have hposting : world.Routes limit ((link.naming program).posting
        (link.naming program).bootRequest).path := htakes
    obtain ⟨response, hstatus, hhear⟩ := Loopback.hear_of_long hposting hlong
    have hsuccess := hheard response hhear
    omega
  · obtain ⟨response, hstatus, hpassage⟩ :=
      hrefuses (link.naming program).bootRequest.text.toUTF8
    have hsuccess := hheard response (Endpoint.serve_of_turnedAway world.fresh hpassage)
    omega

/-- **A client whose boot is not turned away has a window**, and the server has the counter that it
shows. -/
theorem Client.boot_counter (htoken : Token.Proper world.fresh)
    (hroute : world.Routes limit link.path)
    (hshort : (link.naming (some counterName)).bootRequest.text.utf8ByteSize ≤ limit) :
    Client.boot Loopback.conduit (some counterName) { link } world =
      (.ok (),
        { tree := counterWindow
          link := { (link.naming (some counterName)).advance with session := some world.fresh }
          builder := { window := some "E1" }
          status := .done },
        { world.withSessions (world.sessions.insert world.fresh
            (Session.start (.counter {}) link.next).2) with issued := world.issued + 1 }) := by
  obtain ⟨host, hhost, hrun⟩ := run_counterLines (streamText counterLines)
  rw [Client.boot, if_neg Bool.false_ne_true, ← hhost]
  exact Client.cycle_of_reply (Link.boot_counter htoken hroute hshort) hrun

/-- A server that has not been asked anything yet, over the standard carrier. -/
def Loopback.pristine : Loopback := { supply := fun _ => "s" }

theorem Loopback.documented_pristine :
    pristine.endpoint.Documented Carrier.standardLimit :=
  Carrier.documented_standard

/-- A client that boots a counter over a pristine server has a window. -/
theorem Duo.exists_boot_pristine : Token.Proper Loopback.pristine.fresh ∧ ∃ duo : Duo,
    Client.boot Loopback.conduit (some counterName) {} Loopback.pristine =
      (.ok (), duo.client, duo.world) := by
  have htoken : Token.Proper Loopback.pristine.fresh := ⟨by decide, by decide, by decide⟩
  have hroute : Loopback.pristine.Routes Carrier.standardLimit defaultPath :=
    Carrier.takesAt_standard_target (by decide) (by decide)
  have hshort : (Link.new.naming (some counterName)).bootRequest.text.utf8ByteSize ≤
      Carrier.standardLimit := by
    decide +kernel
  exact ⟨htoken, ⟨_, _⟩, Client.boot_counter htoken hroute hshort⟩

/-- A client with a window was not turned away. -/
theorem Client.taken_of_boot (hcarrier : world.endpoint.Documented limit)
    {program : Option String} {client : Client} {world' : Loopback}
    (h : Client.boot Loopback.conduit program { link } world = (.ok (), client, world')) :
    world.Routes limit link.path ∧
      (link.naming program).bootRequest.text.utf8ByteSize ≤ limit := by
  rw [Client.boot, if_neg Bool.false_ne_true] at h
  cases houtcome : link.boot Loopback.conduit program world with
  | mk result rest =>
    cases result with
    | error fault =>
      rw [Client.cycle_of_error houtcome] at h
      cases h
    | ok reply => exact Link.taken_of_boot hcarrier houtcome

/-- **After its boot a client is in touch with a new counter.** -/
theorem InTouch.init {duo : Duo} (hcarrier : world.endpoint.Documented limit)
    (htoken : Token.Proper world.fresh)
    (hboot : Client.boot Loopback.conduit (some counterName) { link } world =
      (.ok (), duo.client, duo.world)) :
    InTouch limit world.fresh newCounter "Increment" duo := by
  obtain ⟨client, after⟩ := duo
  obtain ⟨hroute, hshort⟩ := Client.taken_of_boot hcarrier hboot
  rw [Client.boot_counter htoken hroute hshort] at hboot
  obtain ⟨-, rfl, rfl⟩ := Prod.mk.inj hboot |>.imp_right Prod.mk.inj
  exact {
    live := rfl
    session := rfl
    routed := hroute
    window := rfl
    there := ⟨_, Dict.get?_insert_self .., Session.isClear_start .., program_start_counter _⟩
    nodes := rfl
    step := by decide
    displays := Tree.Displays.init }

end Boot

/-! ## §5 One action -/

/-- What becomes of a counter and of the label on its button by what was accepted. -/
inductive Counter.Follows (counter : Counter) (label : String) :
    Option Event → Counter → String → Prop where
  | same : Follows counter label none counter label
  | taken {event : Event} {counter' : Counter} {lines : List Line}
      (h : counter.Takes counterNodes event counter' lines) :
      Follows counter label (some event) counter' (labelAfter event counter'.step label)

namespace InTouch

variable {limit : Nat} {token : Token} {counter : Counter} {label : String} {duo : Duo}

/-- What holds after an action: the client is in touch with what has become of the counter, and an
interaction was answered as it ought to be. -/
def Goes (limit : Nat) (token : Token) (counter : Counter) (label : String) (moment : Moment) :
    Prop :=
  ∃ counter' label', InTouch limit token counter' label' moment.after ∧
    counter.Follows label moment.accepted? counter' label' ∧
    ∀ interaction, moment.action = .fire interaction → moment.Answered limit

/-- The request that an interaction sends. -/
theorem request?_fire {interaction : Interaction} {event : Event} {doc : Document}
    (hevent : duo.client.tree.report? interaction = some event)
    (hdoc : duo.client.link.eventRequest event = .ok doc) :
    (duo.moment (.fire interaction)).request? = some doc := by
  simp only [Moment.request?, Duo.moment, hevent, Option.bind_some, hdoc]
  rfl

/-- Whether the request of an interaction is too long is told by the length of its text. -/
theorem isTooLong_fire (limit : Nat) {interaction : Interaction} {event : Event} {doc : Document}
    (hevent : duo.client.tree.report? interaction = some event)
    (hdoc : duo.client.link.eventRequest event = .ok doc) :
    (duo.moment (.fire interaction)).isTooLong limit =
      decide (limit < doc.text.utf8ByteSize) := by
  simp only [Moment.isTooLong, request?_fire hevent hdoc, Option.any_some]

/-- What the moment of an interaction is, by what firing it gives. -/
theorem moment_fire {interaction : Interaction} {result : Except Fault (Option Event)}
    {client : Client} {world : Loopback}
    (h : duo.client.fire Loopback.conduit interaction duo.world = (result, client, world)) :
    duo.moment (.fire interaction) =
      ⟨duo, .fire interaction, result, { client, world }⟩ := by
  simp only [Duo.moment, Duo.act, h]

/-- An event whose request is too long changes nothing but the number of the next one. -/
theorem fire_tooLong (h : InTouch limit token counter label duo) {interaction : Interaction}
    {event : Event} {doc : Document} (hevent : duo.client.tree.report? interaction = some event)
    (hdoc : duo.client.link.eventRequest event = .ok doc)
    (hlong : limit < doc.text.utf8ByteSize) :
    Goes limit token counter label (duo.moment (.fire interaction)) := by
  have htooLong := isTooLong_fire limit hevent hdoc
  have hfire := Client.fire_of_error h.live hevent (Link.report_of_tooLong hdoc h.routed hlong)
  rw [moment_fire hfire] at htooLong ⊢
  refine ⟨counter, label, ?_, .same, fun _ _ => ⟨fun _ => ⟨rfl, rfl, rfl⟩, fun hshort => ?_⟩⟩
  · exact { h with }
  · rw [htooLong, decide_eq_true hlong] at hshort
    cases hshort

/-- What an event does whose request is not too long. -/
theorem fire_answered (h : InTouch limit token counter label duo) {interaction : Interaction}
    {event : Event} {doc : Document} (hevent : duo.client.tree.report? interaction = some event)
    (hdoc : duo.client.link.eventRequest event = .ok doc)
    (hshort : doc.text.utf8ByteSize ≤ limit) :
    Goes limit token counter label (duo.moment (.fire interaction)) := by
  obtain ⟨session, hget, hclear, hprogram⟩ := h.there
  have htooLong := isTooLong_fire limit hevent hdoc
  rw [decide_eq_false (Nat.not_lt.mpr hshort)] at htooLong
  have hreport := Link.report_of_session hdoc h.routed hshort h.session hget
  have htakes := session.take_takes hclear event duo.client.link.next
  generalize session.take event duo.client.link.next = outcome at hreport htakes
  obtain ⟨result, after⟩ := outcome
  dsimp only at hreport htakes
  -- A refusal is an error to the client, and the counter is what it was.
  have hrefused : ∀ refusal, result = .error refusal → after.IsClear →
      after.program = .counter counter →
      Goes limit token counter label (duo.moment (.fire interaction)) := by
    rintro refusal rfl hafter hsame
    simp only [Answer.ofReport, ofText_refused, Except.mapError] at hreport
    have hfire := Client.fire_of_error h.live hevent hreport
    rw [moment_fire hfire] at htooLong ⊢
    refine ⟨counter, label, ?_, .same, fun _ _ => ⟨fun hlong => ?_, fun _ => ?_⟩⟩
    · exact h.exchanged h.live rfl h.window hafter hsame h.nodes h.step h.displays
    · rw [htooLong] at hlong
      cases hlong
    · exact .inr ⟨rfl, refusal, rfl⟩
  cases htakes with
  | stale hstale => exact hrefused _ rfl hclear hprogram
  | refused e hlt => exact hrefused _ rfl hclear hprogram
  | accepted program lines hlt hhandle =>
    -- The commands of the program come to the client as they are, and its window takes them.
    rw [hprogram] at hhandle
    obtain ⟨nodes, counter', hnodes, rfl, htaken⟩ := Counter.takes_of_handle hhandle
    obtain rfl : nodes = counterNodes := Option.some.inj (hnodes.symm.trans h.nodes)
    obtain ⟨hkept, hoffered⟩ := htaken.keeps h.step
    obtain ⟨host, hrun, hdisplays⟩ := htaken.displays h.displays h.window (streamText lines)
    simp only [Answer.ofReport, Answer.body, Reply.ofText_streamText htaken.streamProper,
      Except.mapError] at hreport
    have hfire := Client.fire_of_reply h.live hevent hreport hrun
    rw [moment_fire hfire] at htooLong ⊢
    refine ⟨counter', _, ?_, .taken htaken, fun _ _ => ⟨fun hlong => ?_, fun _ => ?_⟩⟩
    · exact h.exchanged h.live rfl h.window hclear rfl (hkept.trans h.nodes) hoffered hdisplays
    · rw [htooLong] at hlong
      cases hlong
    · exact .inl ⟨_, rfl⟩

/-- **After every action the client is in touch with what has become of the counter.** -/
theorem act (h : InTouch limit token counter label duo) (action : Action) :
    Goes limit token counter label (duo.moment action) := by
  cases action with
  | fire interaction =>
    cases hevent : duo.client.tree.report? interaction with
    | none =>
      rw [moment_fire (Client.fire_of_none hevent)]
      refine ⟨counter, label, h, .same, fun _ _ => ⟨fun hlong => ?_, fun _ => .inl ⟨_, rfl⟩⟩⟩
      -- Nothing is sent, so nothing is too long.
      simp [Moment.isTooLong, Moment.request?, hevent] at hlong
    | some event =>
      obtain ⟨doc, hdoc⟩ := Client.exists_eventRequest hevent h.session
      rcases Nat.lt_or_ge limit doc.text.utf8ByteSize with hlong | hshort
      · exact h.fire_tooLong hevent hdoc hlong
      · exact h.fire_answered hevent hdoc hshort
  | select node index =>
    refine ⟨counter, label, h.edit (h.displays.quiet ?_ ?_ ?_), .same, nofun⟩
    · exact Tree.sameShape_userSelect ..
    · exact Tree.attribute?_userSelect ..
    · exact Tree.attribute?_userSelect ..
  | check node value =>
    refine ⟨counter, label, h.edit (h.displays.quiet ?_ ?_ ?_), .same, nofun⟩
    · exact Tree.sameShape_afterSetAttribute ..
    · exact Tree.attribute?_afterSetAttribute_of_ne (by decide) ..
    · exact Tree.attribute?_afterSetAttribute_of_ne (by decide) ..

end InTouch

/-! ## §6 The theorem -/

variable {limit : Nat} {token : Token} {counter counter' : Counter} {label label' : String}
  {duo : Duo}

/-- What one more moment adds to the count. -/
theorem countOf_cons (token : Token) (moment : Moment) (history : List Moment) :
    countOf token (moment :: history) =
      if moment.isReset then 0
      else (if moment.isIncrement then (moment.step token).toInt else 0) +
        countOf token history := by
  unfold countOf
  cases hreset : moment.isReset with
  | true => simp [hreset]
  | false =>
    cases hincrement : moment.isIncrement <;> simp [hreset, hincrement]

/-- What one more moment does to the label. -/
theorem labelOf_cons (moment : Moment) (history : List Moment) (step : Int64) :
    labelOf (moment :: history) step =
      if moment.isSelection then "Increment by " ++ Counter.numberText step
      else labelOf history step := by
  unfold labelOf
  cases hselection : moment.isSelection <;> simp [hselection]

/-- A sum that is within 64 bits does not wrap around. -/
theorem toInt_add_of_lt {a b : Int64} (hb : 0 ≤ b.toInt) (h : a.toInt + b.toInt < signedSize) :
    (a + b).toInt = a.toInt + b.toInt := by
  have ha := a.le_toInt
  unfold signedSize at h
  rw [Int64.toInt_add]
  exact Int.bmod_eq_of_le (by omega) (by omega)

/-- The steps that are offered count upwards, and none by more than ten. -/
theorem Counter.toInt_of_mem_steps {step : Int64} (h : step ∈ Counter.steps) :
    0 ≤ step.toInt ∧ step.toInt ≤ 10 := by
  simp only [Counter.steps, List.mem_cons, List.not_mem_nil, or_false] at h
  rcases h with rfl | rfl | rfl <;> decide

/-- The count goes on being what the history amounts to, as long as this is within 64 bits. -/
theorem Counter.Follows.count_eq {moment : Moment} {history : List Moment}
    (h : counter.Follows label moment.accepted? counter' label')
    (hbefore : moment.before.world.counter? token = some counter)
    (hoffered : counter.step ∈ Counter.steps)
    (hcount : counter.count.toInt = countOf token history)
    (hfits : countOf token (moment :: history) < signedSize) :
    counter'.count.toInt = countOf token (moment :: history) := by
  have hstep : moment.step token = counter.step := by
    simp only [Moment.step, hbefore, Option.map_some, Option.getD_some]
  rw [countOf_cons, Moment.isReset, Moment.isIncrement, hstep, ← hcount] at hfits ⊢
  generalize moment.accepted? = accepted at h hfits ⊢
  cases h with
  | same => simp
  | taken h =>
    cases h with
    | increment hkind hsource =>
      have hsource : _ = "E3" := hsource
      have hsum : counter.count.toInt + counter.step.toInt < signedSize := by
        simpa [hkind, hsource, Int.add_comm] using hfits
      rw [toInt_add_of_lt (Counter.toInt_of_mem_steps hoffered).1 hsum]
      simp [hkind, hsource, Int.add_comm]
    | restart hkind hsource hchecked =>
      have hsource : _ = "E9" := hsource
      simp [hkind, hsource, hchecked]
    | leave hkind hsource hchecked =>
      have hsource : _ = "E9" := hsource
      simp [hkind, hsource, hchecked]
    | choose step hkind => simp [hkind]

/-- The label goes on being what the history amounts to. -/
theorem Counter.Follows.label_eq {moment : Moment} {history : List Moment}
    (h : counter.Follows label moment.accepted? counter' label')
    (hlabel : label = labelOf history counter.step) :
    label' = labelOf (moment :: history) counter'.step := by
  rw [labelOf_cons, Moment.isSelection]
  generalize moment.accepted? = accepted at h ⊢
  cases h with
  | same => simpa using hlabel
  | taken h =>
    unfold labelAfter
    cases h with
    | increment hkind | restart hkind | leave hkind => simpa [hkind] using hlabel
    | choose step hkind => simp [hkind]

theorem countFits_cons {moment : Moment} {history : List Moment} :
    CountFits token (moment :: history) ↔
      countOf token (moment :: history) < signedSize ∧ CountFits token history := by
  simp only [CountFits, List.suffix_cons_iff, forall_eq_or_imp]

/-- After any actions the client is in touch with a counter that is what the history amounts to. -/
theorem InTouch.after (h : InTouch limit token newCounter "Increment" duo) (actions : List Action) :
    ∃ counter label, InTouch limit token counter label (duo.after actions) ∧
      (CountFits token (duo.history actions) →
        counter.count.toInt = countOf token (duo.history actions)) ∧
      label = labelOf (duo.history actions) counter.step ∧
      ∀ moment ∈ duo.history actions, ∀ interaction, moment.action = .fire interaction →
        moment.Answered limit := by
  induction actions with
  | nil =>
    exact ⟨newCounter, "Increment", h, fun _ => rfl, rfl, fun _ hmoment => by cases hmoment⟩
  | cons action earlier ih =>
    -- The latest action stands first: it is done where the earlier ones have led.
    obtain ⟨counter, label, htouch, hcount, hlabel, hanswered⟩ := ih
    obtain ⟨counter', label', htouch', hfollows, hnow⟩ := htouch.act action
    refine ⟨counter', label', htouch', fun hfits => ?_, hfollows.label_eq hlabel,
      fun moment hmoment => ?_⟩
    · obtain ⟨hlast, hpast⟩ := countFits_cons.mp hfits
      exact hfollows.count_eq htouch.counter?_eq htouch.step (hcount hpast) hlast
    · rcases List.mem_cons.mp hmoment with rfl | hmoment
      · exact hnow
      · exact hanswered moment hmoment

/-- No action adds more than ten to the count. -/
theorem InTouch.countOf_le (h : InTouch limit token newCounter "Increment" duo)
    (actions : List Action) : countOf token (duo.history actions) ≤ 10 * actions.length := by
  induction actions with
  | nil => exact Int.le_refl _
  | cons action earlier ih =>
    obtain ⟨counter, label, htouch, -⟩ := h.after earlier
    have hstep : ((duo.after earlier).moment action).step token = counter.step := by
      simp only [Moment.step, Duo.moment, htouch.counter?_eq, Option.map_some, Option.getD_some]
    have hoffered := Counter.toInt_of_mem_steps htouch.step
    rw [Duo.history, countOf_cons, hstep, List.length_cons]
    split
    · omega
    · split <;> omega

/-- **The count of a history that is short enough is within 64 bits.** -/
theorem InTouch.countFits (h : InTouch limit token newCounter "Increment" duo)
    {actions : List Action} (hlength : 10 * actions.length < signedSize) :
    CountFits token (duo.history actions) := by
  induction actions with
  | nil =>
    intro past hpast
    rw [Duo.history, List.suffix_nil] at hpast
    subst hpast
    exact Int.natCast_pos.mpr (by decide)
  | cons action earlier ih =>
    have hle := h.countOf_le (action :: earlier)
    have hshort : 10 * earlier.length < signedSize := by
      rw [List.length_cons] at hlength
      omega
    exact countFits_cons.mpr ⟨Int.lt_of_le_of_lt hle (by exact_mod_cast hlength), ih hshort⟩

/-- **The window mirrors the counter on the server.**  After the boot of a counter, and after any
actions, the display shows the count and the button the step of the session's counter; as long as it
is within 64 bits, the count is the sum of the steps in force at the accepted clicks since the last
accepted reset; and every interaction was accepted, or refused by the server, or too long for the
carrier. -/
theorem Duo.mirrors_after {limit : Nat} {link : Link} {world : Loopback} {duo : Duo}
    (hcarrier : world.endpoint.Documented limit) (htoken : Token.Proper world.fresh)
    (hboot : Client.boot Loopback.conduit (some counterName) { link } world =
      (.ok (), duo.client, duo.world))
    (actions : List Action) (hfits : CountFits world.fresh (duo.history actions)) :
    ∃ counter, Mirrors limit world.fresh (duo.history actions) (duo.after actions) counter := by
  obtain ⟨counter, label, htouch, hcount, hlabel, hanswered⟩ :=
    (InTouch.init hcarrier htoken hboot).after actions
  refine ⟨counter, ?_⟩
  exact {
    session := htouch.session
    there := htouch.counter?_eq
    display := ⟨displayNode, htouch.displays.lookup?_display, htouch.displays.value⟩
    button := ⟨buttonNode, htouch.displays.lookup?_button, hlabel ▸ htouch.displays.label⟩
    offered := by simpa [Counter.steps] using htouch.step
    count := hcount hfits
    answers := hanswered }

/-- The button is clicked after a counter was booted over a pristine server. -/
theorem Duo.mirrors_click :
    Loopback.pristine.endpoint.Documented Carrier.standardLimit ∧
    Token.Proper Loopback.pristine.fresh ∧ ∃ duo : Duo,
      Client.boot Loopback.conduit (some counterName) {} Loopback.pristine =
        (.ok (), duo.client, duo.world) ∧
      CountFits Loopback.pristine.fresh (duo.history [.fire (.command buttonNode)]) ∧
      ∃ counter, Mirrors Carrier.standardLimit Loopback.pristine.fresh
        (duo.history [.fire (.command buttonNode)]) (duo.after [.fire (.command buttonNode)])
        counter := by
  obtain ⟨htoken, duo, hboot⟩ := Duo.exists_boot_pristine
  have hfits : CountFits Loopback.pristine.fresh (duo.history [.fire (.command buttonNode)]) :=
    (InTouch.init Loopback.documented_pristine htoken hboot).countFits (by decide)
  exact ⟨Loopback.documented_pristine, htoken, duo, hboot, hfits,
    Duo.mirrors_after Loopback.documented_pristine htoken hboot _ hfits⟩

/-! ## §7 A check mark that is too long -/

namespace InTouch

/-- A command on the button cannot be sent once the button's check mark fills a whole request. -/
theorem isTooLong_of_checked (h : InTouch limit token counter label duo) {value : String}
    (hchecked : duo.client.tree.attribute? buttonNode "checked" = some value)
    (hlong : limit ≤ value.length) :
    (duo.moment (.fire (.command buttonNode))).isTooLong limit := by
  -- The click is reported with the check mark, so its request is longer than the mark.
  have hevent := h.displays.report?_button
  obtain ⟨doc, hdoc⟩ := Client.exists_eventRequest hevent h.session
  obtain ⟨_, -, hrequest⟩ := Link.eventRequest_eq_ok_iff.mp hdoc
  have hlength := length_lt_of_eventDocument hrequest hchecked
  rw [isTooLong_fire limit hevent hdoc, decide_eq_true_iff]
  omega

/-- Setting the check mark of the button. -/
theorem checked_button (h : InTouch limit token counter label duo) (value : String) :
    (duo.after [.check buttonNode value]).client.tree.attribute? buttonNode "checked" =
      some value := by
  obtain ⟨tree, hset⟩ := Tree.exists_modifyElement (fun e =>
    { e with attributes := e.attributes.insert "checked" value }) h.displays.isSome_element?.2
  have hset : Tree.setAttribute buttonNode "checked" value duo.client.tree = .ok () tree := hset
  have hafter : (duo.after [.check buttonNode value]).client.tree = tree := by
    simp only [Duo.after, Duo.act, Tree.afterSetAttribute, hset]
  rw [hafter, Tree.attribute?_setAttribute hset, if_pos ⟨rfl, rfl⟩]

/-- **A command on the button fails on the way** once the check mark is too long. -/
theorem turnedAway_of_check (h : InTouch limit token counter label duo) {value : String}
    (hlong : limit ≤ value.length) :
    ((duo.after [.check buttonNode value]).moment (.fire (.command buttonNode))).result =
      .error ((duo.after [.check buttonNode value]).world.faultOf
        (duo.after [.check buttonNode value]).client.link.path 413) := by
  obtain ⟨counter', label', hcheck, -, -⟩ := h.act (.check buttonNode value)
  obtain ⟨-, -, -, -, hanswered⟩ := hcheck.act (.fire (.command buttonNode))
  have htooLong := hcheck.isTooLong_of_checked (h.checked_button value) hlong
  exact ((hanswered _ rfl).tooLong htooLong).2.2

end InTouch

/-- A check mark as long as a whole request. -/
def longMark : String := String.ofList (List.replicate Carrier.standardLimit 'x')

theorem length_longMark : longMark.length = Carrier.standardLimit := by
  rw [longMark, String.length_ofList, List.length_replicate]

/-- **A client is not always answered**: a click on a button with such a check mark is a failure of
the transport, neither accepted nor refused by the server. -/
theorem Duo.not_answered_longMark :
    Loopback.pristine.endpoint.Documented Carrier.standardLimit ∧
    Token.Proper Loopback.pristine.fresh ∧ ∃ duo : Duo,
      Client.boot Loopback.conduit (some counterName) {} Loopback.pristine =
        (.ok (), duo.client, duo.world) ∧
      ∃ moment ∈ duo.history [.fire (.command buttonNode), .check buttonNode longMark],
        moment.action = .fire (.command buttonNode) ∧
        ¬ ((∃ event?, moment.result = .ok event?) ∨
          ∃ text, moment.result = .error (.wire (.server text))) := by
  obtain ⟨htoken, duo, hboot⟩ := Duo.exists_boot_pristine
  refine ⟨Loopback.documented_pristine, htoken, duo, hboot, _, List.mem_cons_self, rfl, ?_⟩
  have htouch := InTouch.init Loopback.documented_pristine htoken hboot
  rw [htouch.turnedAway_of_check length_longMark.ge]
  simp [Loopback.faultOf]

end RemoteUi
