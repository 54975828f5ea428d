import RemoteUi.Proofs.Build.Passes
import RemoteUi.Proofs.Client.Bookkeeping
import RemoteUi.Proofs.Client.Reports

/-!
# One interaction, one request at most

An interaction that is fired makes one exchange or none.  It makes one if the client is live and in a
session and the interaction is reported at all; then a server reads what was sent as the event that
was meant, whatever texts the window holds.  Whatever a client is used for, it comes to rest after it.

* §1 faults of writing, and conduits that do not make any;
* §2 what a client is used for, with what it hands to the conduit;
* §3 one cycle;
* §4 one use;
* §5 what becomes of an interaction;
* §6 a run of uses.
-/

namespace RemoteUi

open RemoteUi.Wire

/-! ## §1 Faults -/

/-- A fault that a request brings about that cannot be written. -/
def Fault.IsOfWriting (fault : Fault) : Prop :=
  (∃ name, fault.innermost = .wire (.reservedField name)) ∨
    ∃ cause, fault.innermost = .wire (.malformed cause)

theorem Fault.IsOfBuilding.not_isOfWriting {fault : Fault} (h : fault.IsOfBuilding) :
    ¬ fault.IsOfWriting := by
  rintro (⟨name, hw⟩ | ⟨cause, hw⟩) <;> rcases h with ⟨id, h⟩ | ⟨error, h⟩ <;> cases hw.symm.trans h

/-- A conduit that answers, with whatever it may be, or does not get through. -/
def Conduit.FailsInTransport {World : Type} (conduit : Conduit World) : Prop :=
  ∀ posting world fault, (conduit posting world).1 = .error fault →
    ∃ path reason, fault = .transport path reason

/-- If the answer to a request is no reply, the request did not get through, or the answer is an error
of the server. -/
theorem Conduit.FailsInTransport.not_isOfWriting {World : Type} {conduit : Conduit World}
    (h : conduit.FailsInTransport) {posting : Posting} {world : World} {fault : Fault}
    (hfault : ((conduit posting world).1.bind
      fun answer => (Reply.ofText answer).mapError .wire) = .error fault) :
    ¬ fault.IsOfWriting := by
  cases hresult : (conduit posting world).1 with
  | error cause =>
    obtain ⟨path, reason, rfl⟩ := h _ _ _ hresult
    rw [hresult] at hfault
    cases hfault
    rintro (⟨name, hw⟩ | ⟨malformation, hw⟩) <;> cases hw
  | ok answer =>
    rw [hresult] at hfault
    simp only [Except.bind, Reply.ofText] at hfault
    split at hfault
    · cases hfault
      rintro (⟨name, hw⟩ | ⟨malformation, hw⟩) <;> cases hw
    · cases hfault

/-! ## §2 Uses -/

namespace Client

/-- What a client is used for. -/
inductive Use where
  | boot (program : Option String)
  | fire (interaction : Interaction)
  /-- The window is changed from outside, as when the user selects an entry. -/
  | edit (change : Tree → Tree)

/-- A use of a client. -/
structure Episode where
  use : Use
  before : Client
  /-- Only an interaction is answered with an event. -/
  answer : Except Fault (Option Event)
  /-- What was handed to the conduit. -/
  handed : List Handing
  after : Client

variable {World : Type}

/-- What a use leads to. -/
def perform (conduit : Conduit World) (use : Use) (client : Client) (world : World) :
    Except Fault (Option Event) × Client × World :=
  match use with
  | .boot program =>
    let (result, client, world) := client.boot conduit program world
    (result.map fun _ => none, client, world)
  | .fire interaction => client.fire conduit interaction world
  | .edit change => (.ok none, { client with tree := change client.tree }, world)

/-- The episode in which a client is used. -/
def episode (conduit : Conduit World) (use : Use) (client : Client) (world : World) : Episode where
  use := use
  before := client
  answer := (client.perform conduit use world).1
  handed := (client.perform (Conduit.recorded conduit) use { world }).2.2.handed
  after := (client.perform conduit use world).2.1

/-- The episodes of a run, in order. -/
def episodes (conduit : Conduit World) : List Use → Client → World → List Episode
  | [], _, _ => []
  | use :: uses, client, world =>
    client.episode conduit use world ::
      episodes conduit uses (client.perform conduit use world).2.1
        (client.perform conduit use world).2.2

/-! ## §3 Cycles -/

/-- What becomes of a client in a cycle, by the link and the outcome of the exchange. -/
inductive Cycled (client : Client) (link : Link) :
    Except Fault Reply → Except Fault Unit → Client → Prop where
  | failed (fault : Fault) :
      Cycled client link (.error fault) (.error fault) { client with link, status := .idle }
  | shown (reply : Reply) (builder : Builder) (host : Host)
      (hrun : client.builder.run { tree := client.tree } reply = (.ok (), builder, host)) :
      Cycled client link (.ok reply) (.ok ())
        { client with link, builder, tree := host.tree, status := .done }
  /-- What was done before the fault stays done. -/
  | stuck (reply : Reply) (fault : Fault) (builder : Builder) (host : Host)
      (hrun : client.builder.run { tree := client.tree } reply = (.error fault, builder, host)) :
      Cycled client link (.ok reply) (.error fault)
        { client with link, builder, tree := host.tree, status := .idle }

section Cycles

variable {client after : Client} {link : Link} {outcome : Except Fault Reply}
  {result : Except Fault Unit}

/-- **A cycle is an exchange, and the reply carried out.** -/
theorem cycled (exchange : Link → World → Except Fault Reply × Link × World) (client : Client)
    (world : World) :
    Cycled client (exchange client.link world).2.1 (exchange client.link world).1
        (client.cycle exchange world).1 (client.cycle exchange world).2.1 ∧
      (client.cycle exchange world).2.2 = (exchange client.link world).2.2 := by
  rcases hexchange : exchange client.link world with ⟨outcome, link, after⟩
  cases outcome with
  | error fault =>
    rw [cycle_of_error hexchange]
    exact ⟨.failed fault, rfl⟩
  | ok reply =>
    rcases hrun : client.builder.run { tree := client.tree } reply with ⟨result, builder, host⟩
    cases result with
    | ok u =>
      rw [cycle_of_reply hexchange hrun]
      exact ⟨.shown reply builder host hrun, rfl⟩
    | error fault =>
      rw [cycle_of_fault hexchange hrun]
      exact ⟨.stuck reply fault builder host hrun, rfl⟩

theorem Cycled.link_eq (h : Cycled client link outcome result after) : after.link = link := by
  cases h <;> rfl

/-- After a cycle the client is at rest. -/
theorem Cycled.status (h : Cycled client link outcome result after) :
    after.status = match result with
      | .ok _ => .done
      | .error _ => .idle := by
  cases h <;> rfl

/-- A cycle fails because of its exchange, or because the window cannot be built. -/
theorem Cycled.fault {fault : Fault} (h : Cycled client link outcome (.error fault) after) :
    outcome = .error fault ∨ fault.IsOfBuilding := by
  cases h with
  | failed => exact .inl rfl
  | stuck reply _ builder host hrun => exact .inr (Builder.isOfBuilding_of_run (by rw [hrun]))

end Cycles

/-! ## §4 One use -/

/-- What a use can do. -/
inductive Episode.Done (conduit : Conduit World) : Episode → Prop where
  /-- In simulation no program is booted. -/
  | unbooted (client : Client) (program : Option String) (hsimulation : client.isSimulation) :
      Done conduit ⟨.boot program, client, .ok none, [], client⟩
  /-- A live client boots a program in one cycle. -/
  | booted (client : Client) (program : Option String) (hlive : client.isSimulation = false)
      (link : Link) (outcome : Except Fault Reply) (result : Except Fault Unit)
      (handed : List Handing) (after : Client) (h : Cycled client link outcome result after) :
      Done conduit ⟨.boot program, client, result.map fun _ => none, handed, after⟩
  /-- An interaction that is not reported changes nothing. -/
  | dropped (client : Client) (interaction : Interaction)
      (h : client.tree.report? interaction = none) :
      Done conduit ⟨.fire interaction, client, .ok none, [], client⟩
  /-- In simulation nothing is sent. -/
  | simulated (client : Client) (interaction : Interaction) (event : Event)
      (h : client.tree.report? interaction = some event) (hsimulation : client.isSimulation) :
      Done conduit ⟨.fire interaction, client, .ok (some event), [], client⟩
  /-- Without a session the cycle fails before anything is sent. -/
  | early (client : Client) (interaction : Interaction) (event : Event)
      (h : client.tree.report? interaction = some event) (hlive : client.isSimulation = false)
      (hsession : client.link.session = none) :
      Done conduit ⟨.fire interaction, client, .error .noSession, [],
        { client with status := .idle }⟩
  /-- In a session the event is handed over, and counted whatever comes of it. -/
  | sent (client : Client) (interaction : Interaction) (event : Event)
      (h : client.tree.report? interaction = some event) (hlive : client.isSimulation = false)
      (doc : Document) (hdoc : client.link.eventRequest event = .ok doc) (world : World)
      (result : Except Fault Unit) (after : Client)
      (hcycle : Cycled client client.link.advance ((conduit (client.link.posting doc) world).1.bind
        fun answer => (Reply.ofText answer).mapError .wire) result after) :
      Done conduit ⟨.fire interaction, client, result.map fun _ => some event,
        [⟨client.link.posting doc, (conduit (client.link.posting doc) world).1⟩], after⟩
  | edited (client : Client) (change : Tree → Tree) :
      Done conduit ⟨.edit change, client, .ok none, [], { client with tree := change client.tree }⟩

variable {conduit : Conduit World} {client : Client} {world : World} {interaction : Interaction}
  {event : Event}

/-- What is handed over when an interaction is fired is what is handed over when its event is
reported. -/
theorem handed_fire_of_live (hlive : client.isSimulation = false)
    (h : client.tree.report? interaction = some event) :
    (client.episode conduit (.fire interaction) world).handed =
      (client.link.report (Conduit.recorded conduit) event { world }).2.2.handed := by
  rw [episode]
  dsimp only [perform]
  rw [fire_of_live hlive h]
  exact congrArg Recorded.handed
    (cycled (Link.report (Conduit.recorded conduit) event) client { world }).2

/-- An interaction that is reported is sent if there is a session, and fails otherwise. -/
theorem episode_fire_of_live (conduit : Conduit World) (world : World)
    (hlive : client.isSimulation = false) (h : client.tree.report? interaction = some event) :
    (client.episode conduit (.fire interaction) world).Done conduit := by
  -- The conduit that keeps a record is asked for the same, so it has seen what the given one saw.
  have hhanded : (client.episode conduit (.fire interaction) world).handed = _ :=
    handed_fire_of_live hlive h
  obtain ⟨hcycle, -⟩ := cycled (Link.report conduit event) client world
  have hepisode : client.episode conduit (.fire interaction) world = ⟨.fire interaction, client,
      (client.cycle (Link.report conduit event) world).1.map fun _ => some event,
      (client.episode conduit (.fire interaction) world).handed,
      (client.cycle (Link.report conduit event) world).2.1⟩ := by
    simp only [episode, perform, fire_of_live hlive h]
  rw [hepisode, hhanded]
  cases hsession : client.link.session with
  | none =>
    have hrequest : client.link.eventRequest event = .error .noSession := by
      rw [Link.eventRequest, hsession]
    rw [Link.report_of_error hrequest] at hcycle ⊢
    -- Nothing was handed over, and a cycle without a reply can only fail.
    generalize (client.cycle (Link.report conduit event) world).1 = result at hcycle ⊢
    generalize (client.cycle (Link.report conduit event) world).2.1 = after at hcycle ⊢
    cases hcycle
    exact .early client interaction event h hlive hsession
  | some token =>
    obtain ⟨doc, hdoc⟩ := exists_eventRequest h hsession
    rw [Link.report_of_ok hdoc] at hcycle ⊢
    exact .sent client interaction event h hlive doc hdoc world _ _ hcycle

/-- **Every use does one of these.** -/
theorem episode_done (conduit : Conduit World) (use : Use) (client : Client) (world : World) :
    (client.episode conduit use world).Done conduit := by
  cases use with
  | boot program =>
    cases hsimulation : client.isSimulation with
    | true =>
      simp only [episode, perform, boot, hsimulation, if_true]
      exact .unbooted client program hsimulation
    | false =>
      obtain ⟨hcycle, -⟩ := cycled (Link.boot conduit program) client world
      simp only [episode, perform, boot, hsimulation, Bool.false_eq_true, if_false]
      exact .booted client program hsimulation _ _ _ _ _ hcycle
  | fire interaction =>
    cases h : client.tree.report? interaction with
    | none =>
      simp only [episode, perform, fire_of_none h]
      exact .dropped client interaction h
    | some event =>
      cases hsimulation : client.isSimulation with
      | true =>
        simp only [episode, perform, fire, h, hsimulation, if_true]
        exact .simulated client interaction event h hsimulation
      | false => exact episode_fire_of_live conduit world hsimulation h
  | edit change => exact .edited client change

/-! ## §5 Interactions -/

namespace Episode

/-- Whether a use went through a cycle. -/
def ranCycle (episode : Episode) : Bool :=
  match episode.use with
  | .boot _ => !episode.before.isSimulation
  | .fire interaction =>
    !episode.before.isSimulation && (episode.before.tree.report? interaction).isSome
  | .edit _ => false

/-- What becomes of an interaction that is fired. -/
structure Fires (episode : Episode) (interaction : Interaction) : Prop where
  /-- One request is handed over if the client is live and in a session and the interaction is
  reported, and only then. -/
  sent : (∃ handing, episode.handed = [handing]) ↔ episode.before.isSimulation = false ∧
    (∃ event, episode.before.tree.report? interaction = some event) ∧
    ∃ token, episode.before.link.session = some token
  /-- Otherwise nothing is handed over, and nothing changes but the status. -/
  withheld : (¬ ∃ handing, episode.handed = [handing]) → episode.handed = [] ∧
    episode.after = { episode.before with status := episode.after.status }
  /-- A server reads the request as the event that was meant, in the session that the client is in.
  It has the next number, which is counted whatever comes back. -/
  request : ∀ handing ∈ episode.handed, ∃ token event count,
    episode.before.link.session = some token ∧
    episode.before.tree.report? interaction = some event ∧
    handing.posting.path = episode.before.link.path ∧
    Request.ofText handing.posting.body = .ok (.event token event count) ∧
    episode.after.link = { episode.before.link with count } ∧
    (episode.before.link.count.toNat + 1 < UInt64.size →
      count.toNat = episode.before.link.count.toNat + 1)
  /-- Without a cycle it is answered at once. -/
  spared : episode.ranCycle = false →
    episode.answer = .ok (episode.before.tree.report? interaction)
  /-- If it is answered, then with the event as which the interaction was reported, if it was. -/
  answer : ∀ event?, episode.answer = .ok event? →
    event? = episode.before.tree.report? interaction
  /-- It does not fail because the request cannot be written. -/
  fault : ∀ fault, episode.answer = .error fault → ¬ fault.IsOfWriting

namespace Done

variable {episode : Episode}

/-- **An interaction makes the one request that reports it, or none.** -/
theorem fires (hconduit : conduit.FailsInTransport) (h : episode.Done conduit)
    {interaction : Interaction} (huse : episode.use = .fire interaction) :
    episode.Fires interaction := by
  cases h with
  | unbooted | booted | edited => cases huse
  | dropped client _ hreport =>
    cases huse
    refine ⟨?_, fun _ => ⟨rfl, rfl⟩, nofun, fun _ => by rw [hreport], fun event? hok => ?_, nofun⟩
    · simp [hreport]
    · cases hok
      exact hreport.symm
  | simulated client _ event hreport hsimulation =>
    cases huse
    refine ⟨?_, fun _ => ⟨rfl, rfl⟩, nofun, fun _ => by rw [hreport], fun event? hok => ?_, nofun⟩
    · simp [hsimulation]
    · cases hok
      exact hreport.symm
  | early client _ event hreport hlive hsession =>
    cases huse
    refine ⟨?_, fun _ => ⟨rfl, rfl⟩, nofun, fun hran => ?_, nofun, fun fault herror => ?_⟩
    · simp [hsession]
    · simp [ranCycle, hlive, hreport] at hran
    · cases herror
      rintro (⟨name, hw⟩ | ⟨cause, hw⟩) <;> cases hw
  | sent client _ event hreport hlive doc hdoc world result after hcycle =>
    cases huse
    obtain ⟨token, htoken, hread⟩ := Link.ofText_eventRequest hdoc
    refine ⟨iff_of_true ⟨_, rfl⟩ ⟨hlive, ⟨event, hreport⟩, token, htoken⟩,
      fun hnone => absurd ⟨_, rfl⟩ hnone, fun handing hmem => ?_, fun hran => ?_,
      fun event? hok => ?_, fun fault herror => ?_⟩
    · obtain rfl := List.mem_singleton.mp hmem
      exact ⟨token, event, client.link.next, htoken, hreport, rfl, hread, hcycle.link_eq,
        client.link.toNat_next⟩
    · simp [ranCycle, hlive, hreport] at hran
    · cases result with
      | error cause => cases hok
      | ok u =>
        cases hok
        exact hreport.symm
    · -- The cycle failed with this fault.
      cases result with
      | ok u => cases herror
      | error cause =>
        cases herror
        rcases hcycle.fault with hreport | hbuilding
        · exact hconduit.not_isOfWriting hreport
        · exact hbuilding.not_isOfWriting

/-- **After a cycle the client is done or idle**, and without one its status stays. -/
theorem status (h : episode.Done conduit) : episode.after.status =
    if episode.ranCycle then
      match episode.answer with
      | .ok _ => .done
      | .error _ => .idle
    else episode.before.status := by
  cases h with
  | unbooted client program hsimulation => simp [ranCycle, hsimulation]
  | booted client program hlive link outcome result handed after hcycle =>
    simp only [ranCycle, hlive, hcycle.status]
    cases result <;> rfl
  | dropped client interaction hreport => simp [ranCycle, hreport]
  | simulated client interaction event hreport hsimulation => simp [ranCycle, hsimulation]
  | early client interaction event hreport hlive hsession => simp [ranCycle, hlive, hreport]
  | sent client interaction event hreport hlive doc hdoc world result after hcycle =>
    simp only [ranCycle, hlive, hreport, hcycle.status]
    cases result <;> rfl
  | edited client change => rfl

end Done

end Episode

/-! ## §6 A run of uses -/

/-- A client that is neither loading nor running. -/
def AtRest (client : Client) : Prop := client.status = .idle ∨ client.status = .done

theorem Episode.Done.atRest {episode : Episode} (h : episode.Done conduit)
    (hrest : episode.before.AtRest) : episode.after.AtRest := by
  unfold AtRest
  rw [h.status]
  split
  · cases episode.answer with
    | ok event? => exact .inr rfl
    | error fault => exact .inl rfl
  · exact hrest

theorem episode_done_of_mem {uses : List Use} {client : Client} {world : World}
    {episode : Episode} (h : episode ∈ client.episodes conduit uses world) :
    episode.Done conduit := by
  induction uses generalizing client world with
  | nil => cases h
  | cons use uses ih =>
    rcases List.mem_cons.mp h with rfl | h
    · exact episode_done conduit use client world
    · exact ih h

/-- **A client at rest is at rest after every use.** -/
theorem AtRest.of_mem {uses : List Use} {client : Client} {world : World} {episode : Episode}
    (hrest : client.AtRest) (h : episode ∈ client.episodes conduit uses world) :
    episode.after.AtRest := by
  induction uses generalizing client world with
  | nil => cases h
  | cons use uses ih =>
    have hfirst := (episode_done conduit use client world).atRest hrest
    rcases List.mem_cons.mp h with rfl | h
    · exact hfirst
    · exact ih hfirst h

/-- How a client conducts itself in a run, whatever it is used for. -/
structure Conduct (client : Client) (episodes : List Episode) : Prop where
  fires : ∀ episode ∈ episodes, ∀ interaction, episode.use = .fire interaction →
    episode.Fires interaction
  /-- A cycle that succeeds leaves the client done, and one that fails leaves it idle.  Without a
  cycle the status stays. -/
  status : ∀ episode ∈ episodes, episode.after.status =
    if episode.ranCycle then
      match episode.answer with
      | .ok _ => .done
      | .error _ => .idle
    else episode.before.status
  /-- So it is not left loading or running. -/
  atRest : client.AtRest → ∀ episode ∈ episodes, episode.after.AtRest

/-- **A client sends one faithful request for an interaction, or none, and comes to rest**, over any
conduit that answers or does not get through. -/
theorem conduct (conduit : Conduit World) (hconduit : conduit.FailsInTransport) (uses : List Use)
    (client : Client) (world : World) :
    Conduct client (client.episodes conduit uses world) where
  fires _ hmem _ huse := (episode_done_of_mem hmem).fires hconduit huse
  status _ hmem := (episode_done_of_mem hmem).status
  atRest hrest _ hmem := hrest.of_mem hmem

/-- A conduit that answers from a list.  Where the list says so, and after its end, it does not get
through. -/
def relay : Conduit (List (Option String))
  | posting, [] => (.error (.transport posting.path "no answer"), [])
  | _, some answer :: script => (.ok answer, script)
  | posting, none :: script => (.error (.transport posting.path "timeout"), script)

/-- A button is clicked before there is a session and in one, then a node that is not there, and then
the button again, out of reach of the server. -/
def clickUses : List Use :=
  [.edit (·.withElement .xul "button" "E2"), .fire (.command 1), .boot (some "Counter"),
    .fire (.command 1), .fire (.command 2), .fire (.command 1)]

def clickScript : List (Option String) := [some "t\nnull", some "null", none]

theorem conduct_clickUses : relay.FailsInTransport ∧
    Conduct {} (episodes relay clickUses {} clickScript) ∧
    (episodes relay clickUses {} clickScript).map (·.handed.length) = [0, 0, 1, 1, 0, 1] := by
  have htransport : relay.FailsInTransport := by
    intro posting script fault h
    match script with
    | [] | none :: _ =>
      cases h
      exact ⟨_, _, rfl⟩
    | some _ :: _ => cases h
  exact ⟨htransport, conduct relay htransport clickUses {} clickScript, by decide +kernel⟩

end Client

end RemoteUi
