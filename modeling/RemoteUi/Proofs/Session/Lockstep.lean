import Mathlib.Logic.Function.Basic
import RemoteUi.Proofs.Client.Links
import RemoteUi.Proofs.Server.Carriers
import RemoteUi.Proofs.Server.Messages

/-!
# Links and their server stay in step

Any number of links take turns with one server.  Requests and replies may be lost on their way, so
a link counts requests that the server never saw, and the server starts sessions that no link knows
of.  All the same the server understands everything that reaches it, and knows the session and
finds the number new of every event.

* §1 lossy conduits;
* §2 links that take turns;
* §3 what a conduit does with a request that the server can read;
* §4 the invariant, and what one turn does to it;
* §5 the theorem.
-/

namespace RemoteUi

open RemoteUi.Text RemoteUi.Wire

/-! ## §1 Lossy conduits -/

/-- A server, with a record of what it made of the messages that reached it. -/
structure Station where
  world : Loopback
  /-- The responses in order, each with what became of the request if it was one. -/
  heard : List (Response × Option Answer) := []

/-- What becomes of a request and its reply on their way. -/
inductive Fate where
  | delivered
  | requestLost (reason : String)
  | replyLost (reason : String)

namespace Station

/-- The station after one more response. -/
def noting (station : Station) (response : Response) (answer : Option Answer) : Station :=
  { station with heard := station.heard ++ [(response, answer)] }

/-- Hands a posting to the server, and writes down what it makes of it. -/
def deliver : Conduit Station := fun posting station =>
  let (response, answer, _) := station.world.hear posting
  let (result, world) := Loopback.conduit posting station.world
  (result, { station.noting response answer with world })

end Station

/-- The conduit on which one exchange meets its fate.  A loss is a failure of the transport. -/
def Fate.conduit : Fate → Conduit Station
  | .delivered => Station.deliver
  | .requestLost reason => fun posting station =>
    (.error (.transport posting.path reason), station)
  | .replyLost reason => fun posting station =>
    (.error (.transport posting.path reason), (station.deliver posting).2)

/-! ## §2 Links that take turns -/

/-- One of the links does something, and the exchange meets its fate. -/
structure Move where
  link : Nat
  act : Act
  fate : Fate

/-- Links to one server. -/
structure Net where
  links : Nat → Link
  station : Station

namespace Net

/-- The link and the station after an act. -/
def perform (act : Act) (fate : Fate) (link : Link) (station : Station) : Link × Station :=
  match act with
  | .boot program => (link.boot fate.conduit program station).2
  | .report event => (link.report fate.conduit event station).2

/-- The net after a move. -/
def step (net : Net) (move : Move) : Net :=
  let (link, station) := perform move.act move.fate (net.links move.link) net.station
  { links := Function.update net.links move.link link, station }

/-- The net after a list of moves. -/
def run (net : Net) (moves : List Move) : Net := moves.foldl step net

/-- No number wraps around in a list of moves: no link counts back. -/
def Counts : Net → List Move → Prop
  | _, [] => True
  | net, move :: moves =>
    (net.links move.link).count ≤ ((net.step move).links move.link).count ∧
      (net.step move).Counts moves

/-- A net at its start: nobody has a session, and the server has heard nothing. -/
structure Starts (net : Net) : Prop where
  links : ∀ i, (net.links i).session = none
  server : net.station.world.sessions = ∅
  heard : net.station.heard = []

end Net

/-- Answers of a server that is out of step with whoever asked. -/
def Answer.isOutOfStep : Answer → Bool
  | .undecodable _ => true
  | .refused (.unknownSession _) => true
  | .refused (.staleRequest ..) => true
  | _ => false

/-- A response that is no bad request, and tells nobody to be out of step. -/
def IsInStep (heard : Response × Option Answer) : Prop :=
  heard.1.status ≠ 400 ∧ ∀ answer, heard.2 = some answer → answer.isOutOfStep = false

/-! ## §3 One request -/

/-- What may come of a request on a lossy conduit, with the station afterwards. -/
inductive Station.Conveys (station : Station) (request : Request) :
    Except Fault String → Station → Prop where
  /-- The server did not see it. -/
  | lost (fault : Fault) : Conveys station request (.error fault) station
  /-- The carrier turned it away. -/
  | turnedAway (fault : Fault) (response : Response) (hstatus : response.status ≠ 400) :
      Conveys station request (.error fault) (station.noting response none)
  /-- The server answered it, and the answer came back or not. -/
  | answered (response : Response) (result : Except Fault String) (hstatus : response.status = 200)
      (hresult : ∀ body, result = .ok body → body = (station.world.take request).1.body) :
      Conveys station request result
        { station.noting response (some (station.world.take request).1) with
          world := (station.world.take request).2 }

variable {station : Station} {posting : Posting} {request : Request} {limit : Nat}

/-- A request that the server can read is turned away or answered. -/
theorem Station.deliver_conveys (station : Station)
    (hcarrier : station.world.endpoint.Documented limit)
    (hrequest : Request.ofText posting.body = .ok request) :
    station.Conveys request (station.deliver posting).1 (station.deliver posting).2 := by
  rcases Endpoint.serve_post_cases hcarrier posting.path station.world.fresh posting.body with
    hanswered | ⟨response, hstatus, haway⟩
  · obtain ⟨hconduit, hok, hanswer⟩ := Loopback.conduit_of_answered hanswered hrequest
    simp only [deliver, hconduit, hanswer]
    exact .answered _ _ hok fun body h => (Except.ok.inj h).symm
  · have hfail : ¬(200 ≤ response.status ∧ response.status < 300) := by omega
    have hhear : station.world.hear posting = (response, none, station.world.endpoint) := haway
    simp only [deliver, Loopback.conduit_of_turnedAway hhear hfail, hhear]
    exact .turnedAway _ response (by omega)

theorem Fate.conduit_conveys (fate : Fate) (station : Station)
    (hcarrier : station.world.endpoint.Documented limit)
    (hrequest : Request.ofText posting.body = .ok request) :
    station.Conveys request (fate.conduit posting station).1
      (fate.conduit posting station).2 := by
  cases fate with
  | delivered => exact station.deliver_conveys hcarrier hrequest
  | requestLost reason => exact .lost _
  | replyLost reason =>
    -- The station is as after a delivery, whatever the link hears of it.
    have hdelivered := station.deliver_conveys hcarrier hrequest
    simp only [conduit]
    generalize station.deliver posting = outcome at hdelivered ⊢
    obtain ⟨result, after⟩ := outcome
    dsimp only at hdelivered ⊢
    cases hdelivered with
    | lost fault => exact .lost _
    | turnedAway fault response hstatus => exact .turnedAway _ response hstatus
    | answered response result hstatus => exact .answered response _ hstatus nofun

/-! ## §4 The invariant -/

/-- A session takes an event whose number is above its last one, whatever the program says. -/
theorem Session.take_of_lt {session : Session} {count : UInt64} (h : session.last < count)
    (event : Event) :
    (Answer.ofReport (session.take event count).1).isOutOfStep = false ∧
      (session.take event count).2.last = count := by
  simp only [take, if_neg (UInt64.not_le.mpr h)]
  split <;> exact ⟨rfl, rfl⟩

/-- The net is in step: the sessions of the links are there, with numbers that the links have
counted already, and the server has answered accordingly so far. -/
structure Net.InStep (net : Net) : Prop where
  documented : ∃ limit, net.station.world.endpoint.Documented limit
  /-- No token is issued twice. -/
  distinct : Function.Injective net.station.world.supply
  noBreak : ∀ n, '\n' ∉ (net.station.world.supply n).toList
  /-- Sessions have tokens that were issued. -/
  supplied : ∀ token session, net.station.world.sessions.get? token = some session →
    ∃ n < net.station.world.issued, token = net.station.world.supply n
  held : ∀ i token, (net.links i).session = some token →
    ∃ session, net.station.world.sessions.get? token = some session ∧
      session.last ≤ (net.links i).count
  /-- No two links have the same session. -/
  apart : ∀ i j token, (net.links i).session = some token → (net.links j).session = some token →
    i = j
  heard : ∀ h ∈ net.station.heard, IsInStep h

theorem Net.Starts.inStep {net : Net} (h : net.Starts)
    (hcarrier : net.station.world.endpoint.Documented limit)
    (hdistinct : Function.Injective net.station.world.supply)
    (hbreak : ∀ n, '\n' ∉ (net.station.world.supply n).toList) : net.InStep where
  documented := ⟨limit, hcarrier⟩
  distinct := hdistinct
  noBreak := hbreak
  supplied token session hget := by
    rw [h.server, Dict.get?_empty] at hget
    cases hget
  held i token hsession := by
    rw [h.links i] at hsession
    cases hsession
  apart i j token hsession := by
    rw [h.links i] at hsession
    cases hsession
  heard x hx := by
    rw [h.heard] at hx
    cases hx

namespace Net.InStep

variable {links : Nat → Link} {i : Nat} {link : Link}

/-- The server said something that is in step. -/
theorem noting (h : Net.InStep ⟨links, station⟩) (response : Response) (answer : Option Answer)
    (hnew : IsInStep (response, answer)) : Net.InStep ⟨links, station.noting response answer⟩ where
  documented := h.documented
  distinct := h.distinct
  noBreak := h.noBreak
  supplied := h.supplied
  held := h.held
  apart := h.apart
  heard x hx := by
    rcases List.mem_append.mp hx with hx | hx
    · exact h.heard x hx
    · exact List.mem_singleton.mp hx ▸ hnew

/-- A link counted on and has the session that it had. -/
theorem advance (h : Net.InStep ⟨links, station⟩) (hsession : link.session = (links i).session)
    (hcount : (links i).count ≤ link.count) :
    Net.InStep ⟨Function.update links i link, station⟩ where
  documented := h.documented
  distinct := h.distinct
  noBreak := h.noBreak
  supplied := h.supplied
  held j token hj := by
    dsimp only at hj ⊢
    by_cases hji : j = i
    · subst hji
      rw [Function.update_self] at hj ⊢
      obtain ⟨session, hget, hlast⟩ := h.held j token (hsession ▸ hj)
      exact ⟨session, hget, UInt64.le_trans hlast hcount⟩
    · rw [Function.update_of_ne hji] at hj ⊢
      exact h.held j token hj
  apart j k token hj hk := by
    have hsame : ∀ j, (Function.update links i link j).session = (links j).session := by
      intro j
      by_cases hji : j = i
      · subst hji
        rw [Function.update_self, hsession]
      · rw [Function.update_of_ne hji]
    rw [hsame] at hj hk
    exact h.apart j k token hj hk
  heard := h.heard

/-- The next token was not issued to any session. -/
theorem get?_fresh (h : Net.InStep ⟨links, station⟩) :
    station.world.sessions.get? station.world.fresh = none := by
  cases hget : station.world.sessions.get? station.world.fresh with
  | none => rfl
  | some session =>
    obtain ⟨n, hn, heq⟩ := h.supplied _ session hget
    exact absurd (h.distinct heq) (Nat.ne_of_gt hn)

/-- So no link has a session with it. -/
theorem session_ne_fresh (h : Net.InStep ⟨links, station⟩) (j : Nat) :
    (links j).session ≠ some station.world.fresh := by
  intro hj
  obtain ⟨session, hget, -⟩ := h.held j _ hj
  rw [h.get?_fresh] at hget
  cases hget

/-- A session was started that no link has yet. -/
theorem start (h : Net.InStep ⟨links, station⟩) (session : Session) :
    Net.InStep ⟨links, { station with
      world := { station.world.withSessions
          (station.world.sessions.insert station.world.fresh session) with
        issued := station.world.issued + 1 } }⟩ where
  documented := h.documented
  distinct := h.distinct
  noBreak := h.noBreak
  supplied token s hget := by
    change (station.world.sessions.insert station.world.fresh session).get? token = some s at hget
    rw [Dict.get?_insert] at hget
    split at hget
    · next heq => exact ⟨_, Nat.lt_succ_self _, heq.symm⟩
    · obtain ⟨n, hn, heq⟩ := h.supplied token s hget
      exact ⟨n, Nat.lt_succ_of_lt hn, heq⟩
  held j token hj := by
    obtain ⟨s, hget, hlast⟩ := h.held j token hj
    have hne : station.world.fresh ≠ token := fun heq => h.session_ne_fresh j (heq ▸ hj)
    exact ⟨s, (Dict.get?_insert ..).trans ((if_neg hne).trans hget), hlast⟩
  apart := h.apart
  heard := h.heard

/-- A link took over a session that no link had. -/
theorem hold (h : Net.InStep ⟨links, station⟩) {token : Token} {session : Session}
    (hget : station.world.sessions.get? token = some session)
    (hfree : ∀ j, (links j).session ≠ some token) (hsession : link.session = some token)
    (hlast : session.last ≤ link.count) :
    Net.InStep ⟨Function.update links i link, station⟩ where
  documented := h.documented
  distinct := h.distinct
  noBreak := h.noBreak
  supplied := h.supplied
  held j t hj := by
    dsimp only at hj ⊢
    by_cases hji : j = i
    · subst hji
      rw [Function.update_self] at hj ⊢
      rw [hsession] at hj
      cases hj
      exact ⟨session, hget, hlast⟩
    · rw [Function.update_of_ne hji] at hj ⊢
      exact h.held j t hj
  apart j k t hj hk := by
    dsimp only at hj hk
    by_cases hji : j = i <;> by_cases hki : k = i
    · exact hji.trans hki.symm
    · subst hji
      rw [Function.update_self, hsession] at hj
      rw [Function.update_of_ne hki, ← hj] at hk
      exact absurd hk (hfree k)
    · subst hki
      rw [Function.update_self, hsession] at hk
      rw [Function.update_of_ne hji, ← hk] at hj
      exact absurd hj (hfree j)
    · rw [Function.update_of_ne hji] at hj
      rw [Function.update_of_ne hki] at hk
      exact h.apart j k t hj hk
  heard := h.heard

/-- The session of a link took an event that the link had counted. -/
theorem settle (h : Net.InStep ⟨links, station⟩) {token : Token} {session : Session}
    (htoken : (links i).session = some token) (hlast : session.last ≤ (links i).count) :
    Net.InStep ⟨links, { station with
      world := station.world.withSessions (station.world.sessions.insert token session) }⟩ where
  documented := h.documented
  distinct := h.distinct
  noBreak := h.noBreak
  supplied t s hget := by
    change (station.world.sessions.insert token session).get? t = some s at hget
    rw [Dict.get?_insert] at hget
    split at hget
    · next heq =>
      obtain ⟨old, hold, -⟩ := h.held i token htoken
      exact heq ▸ h.supplied token old hold
    · exact h.supplied t s hget
  held j t hj := by
    by_cases ht : token = t
    · subst ht
      obtain rfl := h.apart i j token htoken hj
      exact ⟨session, Dict.get?_insert_self .., hlast⟩
    · obtain ⟨s, hget, hs⟩ := h.held j t hj
      exact ⟨s, (Dict.get?_insert ..).trans ((if_neg ht).trans hget), hs⟩
  apart := h.apart
  heard := h.heard

end Net.InStep

/-! ### One turn -/

namespace Net.InStep

variable {links : Nat → Link}

/-- **A boot leaves the net in step**, whatever becomes of it. -/
theorem boot (h : Net.InStep ⟨links, station⟩) (i : Nat) (program : Option String) (fate : Fate)
    (hcount : (links i).count ≤ (links i).next) :
    Net.InStep ⟨Function.update links i ((links i).boot fate.conduit program station).2.1,
      ((links i).boot fate.conduit program station).2.2⟩ := by
  rw [Link.boot_eq]
  -- The link has the session that it had, and will have counted the request.
  obtain ⟨link, hlink⟩ : ∃ link, link = (links i).naming program := ⟨_, rfl⟩
  have hsession : link.advance.session = (links i).session := by rw [hlink]; rfl
  have hadvance : (links i).count ≤ link.advance.count := by rw [hlink]; exact hcount
  obtain ⟨limit, hcarrier⟩ := h.documented
  have hconveys := fate.conduit_conveys station hcarrier link.ofText_bootRequest
  dsimp only
  rw [← hlink]
  generalize fate.conduit (link.posting link.bootRequest) station = outcome at hconveys ⊢
  obtain ⟨result, after⟩ := outcome
  dsimp only at hconveys ⊢
  cases hconveys with
  | lost fault => exact h.advance hsession hadvance
  | turnedAway fault response hstatus =>
    have hnoted := h.noting response none ⟨hstatus, nofun⟩
    exact hnoted.advance hsession hadvance
  | answered response result hstatus hresult =>
    have hok : response.status ≠ 400 := by omega
    rw [Loopback.take_boot] at hresult ⊢
    cases hlaunch : Program.launch? (station.world.endpoint.server.programFor link.program) with
    | none =>
      rw [hlaunch] at hresult
      have hnoted := h.noting response (some (.refused (.unknownProgram
        (station.world.endpoint.server.programFor link.program))))
        ⟨hok, fun _ heq => Option.some.inj heq ▸ rfl⟩
      refine hnoted.advance (Eq.trans ?_ hsession) ((link.count_afterBoot result).symm ▸ hadvance)
      cases result with
      | error fault => rfl
      | ok body =>
        obtain rfl := hresult body rfl
        simp only [Link.afterBoot, Link.receiveBoot, splitBoot_refused]
    | some program =>
      rw [hlaunch] at hresult
      have hstarted := (h.start (Session.start program link.next).2).noting response
        (some (.booted station.world.fresh (Session.start program link.next).1))
        ⟨hok, fun _ heq => Option.some.inj heq ▸ rfl⟩
      cases result with
      | error fault => exact hstarted.advance hsession hadvance
      | ok body =>
        obtain rfl := hresult body rfl
        unfold Link.afterBoot
        rcases link.advance.receiveBoot_cases _ with hkept | ⟨token, stream, hsplit, hnew⟩
        · dsimp only
          rw [hkept]
          exact hstarted.advance hsession hadvance
        · -- The token that the link has read is the one that was issued.
          have htoken : token = station.world.fresh := by
            rcases splitBoot_frameBoot_cases (h.noBreak station.world.issued)
              (streamText (Session.start program link.next).1) with heq | ⟨e, heq⟩
            · exact (Prod.mk.inj (Except.ok.inj (hsplit.symm.trans heq))).1
            · cases hsplit.symm.trans heq
          dsimp only
          rw [hnew]
          refine hstarted.hold (Dict.get?_insert_self ..) (fun j => ?_) (htoken ▸ rfl)
            (UInt64.le_refl _)
          exact h.session_ne_fresh j

/-- **The report of an event leaves the net in step**, whatever becomes of it. -/
theorem report (h : Net.InStep ⟨links, station⟩) (i : Nat) (event : Event) (fate : Fate)
    (hcount : (links i).count ≤ ((links i).report fate.conduit event station).2.1.count) :
    Net.InStep ⟨Function.update links i ((links i).report fate.conduit event station).2.1,
      ((links i).report fate.conduit event station).2.2⟩ := by
  cases hdoc : (links i).eventRequest event with
  | error fault =>
    rw [Link.report_of_error hdoc]
    exact h.advance rfl (UInt64.le_refl _)
  | ok doc =>
    rw [Link.report_of_ok hdoc] at hcount ⊢
    -- The event is addressed to the session of the link.
    obtain ⟨token, htoken, hrequest⟩ := Link.ofText_eventRequest hdoc
    obtain ⟨limit, hcarrier⟩ := h.documented
    have hconveys := fate.conduit_conveys station hcarrier hrequest
    dsimp only at hcount ⊢
    generalize fate.conduit ((links i).posting doc) station = outcome at hconveys ⊢
    obtain ⟨result, after⟩ := outcome
    dsimp only at hconveys ⊢
    cases hconveys with
    | lost fault => exact h.advance rfl hcount
    | turnedAway fault response hstatus =>
      have hnoted := h.noting response none ⟨hstatus, nofun⟩
      exact hnoted.advance rfl hcount
    | answered response result hstatus =>
      have hok : response.status ≠ 400 := by omega
      obtain ⟨session, hget, hlast⟩ := h.held i token htoken
      -- The number is new to the session.
      have hlt : session.last < (links i).next :=
        UInt64.lt_of_le_of_lt hlast (Link.count_lt_next hcount)
      obtain ⟨hanswer, hnumber⟩ := Session.take_of_lt hlt event
      rw [Loopback.take_event, hget]
      have hnoted := h.noting response
        (some (Answer.ofReport (session.take event (links i).next).1))
        ⟨hok, fun _ heq => Option.some.inj heq ▸ hanswer⟩
      have hadvanced : Net.InStep ⟨Function.update links i (links i).advance, _⟩ :=
        hnoted.advance rfl hcount
      refine hadvanced.settle (i := i) ?_ ?_
      · rw [Function.update_self]
        exact htoken
      · rw [Function.update_self, hnumber]
        exact UInt64.le_refl _

/-- A move leaves the net in step, provided that the link does not count around. -/
theorem step {net : Net} (h : net.InStep) (move : Move)
    (hcount : (net.links move.link).count ≤ ((net.step move).links move.link).count) :
    (net.step move).InStep := by
  obtain ⟨links, station⟩ := net
  obtain ⟨i, act, fate⟩ := move
  simp only [Net.step, Function.update_self] at hcount ⊢
  cases act with
  | boot program =>
    have hnext : (links i).count ≤ ((links i).naming program).next := by
      simpa only [Net.perform, Link.boot_eq, Link.count_afterBoot] using hcount
    exact h.boot i program fate hnext
  | report event => exact h.report i event fate hcount

/-- A list of moves leaves the net in step. -/
theorem run {net : Net} (h : net.InStep) {moves : List Move} (hcounts : net.Counts moves) :
    (net.run moves).InStep := by
  induction moves generalizing net with
  | nil => exact h
  | cons move moves ih => exact ih (h.step move hcounts.1) hcounts.2

end Net.InStep

/-! ## §5 The theorem -/

/-- **Links and their server never fall out of step.**  Whatever any number of links boot and report
in turns, and whichever requests and replies are lost, the server finds no request bad, and it
never finds the session of an event unknown or its number stale.  The carrier is as documented, the
tokens are distinct and have no line break in them, and no number wraps around; that is all. -/
theorem Net.heard_inStep (net : Net) (moves : List Move) (hstarts : net.Starts)
    (hcarrier : net.station.world.endpoint.Documented limit)
    (hdistinct : Function.Injective net.station.world.supply)
    (hbreak : ∀ n, '\n' ∉ (net.station.world.supply n).toList) (hcounts : net.Counts moves) :
    ∀ h ∈ (net.run moves).station.heard,
      h.1.status ≠ 400 ∧ ∀ answer, h.2 = some answer → answer.isOutOfStep = false :=
  ((hstarts.inStep hcarrier hdistinct hbreak).run hcounts).heard

/-! ### Runs that are not too long -/

/-- A link counts one request at most. -/
theorem Net.count_perform (act : Act) (fate : Fate) (link : Link) (station : Station) :
    (Net.perform act fate link station).1.count = link.count ∨
      (Net.perform act fate link station).1.count = link.next := by
  cases act with
  | boot program => exact .inr (by simp only [perform, Link.boot_eq, Link.count_afterBoot]; rfl)
  | report event =>
    simp only [perform]
    cases hdoc : link.eventRequest event with
    | error fault => exact .inl (by rw [Link.report_of_error hdoc])
    | ok doc => exact .inr (by rw [Link.report_of_ok hdoc]; rfl)

/-- **No number wraps around in a run that is short enough.** -/
theorem Net.counts_of_lt {net : Net} {moves : List Move}
    (h : ∀ i, (net.links i).count.toNat + moves.length < UInt64.size) : net.Counts moves := by
  induction moves generalizing net with
  | nil => trivial
  | cons move moves ih =>
    simp only [List.length_cons] at h
    have hbound := h move.link
    have hnext := Link.toNat_next (net.links move.link) (by omega)
    have hmoved := Net.count_perform move.act move.fate (net.links move.link) net.station
    refine ⟨?_, ih fun j => ?_⟩
    · simp only [step, Function.update_self, UInt64.le_iff_toNat_le]
      rcases hmoved with hsame | hcounted
      · rw [hsame]
      · rw [hcounted, hnext]
        omega
    · simp only [step]
      by_cases hj : j = move.link
      · subst hj
        rw [Function.update_self]
        rcases hmoved with hsame | hcounted
        · rw [hsame]
          omega
        · rw [hcounted, hnext]
          omega
      · rw [Function.update_of_ne hj]
        have := h j
        omega

/-- A net in which nothing has happened yet, with tokens that are numerals. -/
def quietNet : Net where
  links _ := Link.new
  station := { world := { supply := fun n => String.ofList (writeNat n) } }

/-- Two links boot, report clicks and boot again, while a request and a reply are lost. -/
def lossyMoves : List Move :=
  [⟨0, .boot (some counterName), .delivered⟩, ⟨1, .boot none, .replyLost "timeout"⟩,
    ⟨0, .report (clickOn "E3"), .requestLost "timeout"⟩, ⟨1, .boot none, .delivered⟩,
    ⟨0, .report (clickOn "E3"), .delivered⟩, ⟨1, .report (clickOn "E2"), .delivered⟩,
    ⟨0, .boot (some "Nothing"), .delivered⟩, ⟨0, .report (clickOn "E3"), .delivered⟩]

theorem quietNet_starts : quietNet.Starts := ⟨fun _ => rfl, rfl, rfl⟩

theorem quietNet_distinct : Function.Injective quietNet.station.world.supply := by
  intro m n h
  have hdigits : writeNat m = writeNat n := String.ofList_injective h
  have hread := extendNat?_writeNat m
  rw [hdigits, extendNat?_writeNat n] at hread
  exact (Option.some.inj hread).symm

theorem quietNet_noBreak (n : Nat) : '\n' ∉ (quietNet.station.world.supply n).toList := by
  intro h
  have hdigits : '\n' ∈ writeNat n := by simpa [quietNet] using h
  exact absurd (isDigit_of_mem_writeNat hdigits) (by decide)

theorem quietNet_counts : quietNet.Counts lossyMoves :=
  Net.counts_of_lt fun _ => show 0 + 8 < UInt64.size by decide

theorem quietNet_documented :
    quietNet.station.world.endpoint.Documented Carrier.standardLimit :=
  Carrier.documented_standard

theorem Net.heard_inStep_lossyMoves : quietNet.Starts ∧
    quietNet.station.world.endpoint.Documented Carrier.standardLimit ∧
    quietNet.Counts lossyMoves ∧
    ∀ h ∈ (quietNet.run lossyMoves).station.heard,
      h.1.status ≠ 400 ∧ ∀ answer, h.2 = some answer → answer.isOutOfStep = false :=
  ⟨quietNet_starts, quietNet_documented, quietNet_counts,
    Net.heard_inStep quietNet lossyMoves quietNet_starts quietNet_documented quietNet_distinct
      quietNet_noBreak quietNet_counts⟩

end RemoteUi
