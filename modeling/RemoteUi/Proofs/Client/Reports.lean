import RemoteUi.Client.App
import RemoteUi.Proofs.Client.Links

/-!
# What a client reports

The events that a client makes of interactions can all be written, so a client in a session sends
each of them.  What becomes of one that is sent is decided by the conduit and by the window.

* §1 events can be written;
* §2 cycles;
* §3 an interaction that is fired.
-/

namespace RemoteUi

open RemoteUi.Text RemoteUi.Wire

/-! ## §1 Events -/

/-- The names of the extras that a client reports. -/
def reportedExtras : List String := [Tree.selectedIndexKey, "color", "value"]

namespace Tree

variable {tree : Tree} {node : Handle} {kind : EventKind} {event : Event}

theorem writable_of_keys (h : ∀ key ∈ event.extra.keys, key ∈ reportedExtras) : event.Writable := by
  have hall : ∀ key ∈ reportedExtras, key ∉ reservedFields ∧ isElementName key.toList := by
    decide +kernel
  exact fun key hkey => hall key (h key hkey)

/-- An event without extras can be written. -/
theorem writable_eventOn?_nil (h : tree.eventOn? node kind [] = some event) : event.Writable := by
  obtain ⟨source, -, rfl⟩ := Option.map_eq_some_iff.mp h
  exact writable_of_keys fun key hkey => by cases hkey

/-- An event with one of the usual extras can be written. -/
theorem writable_eventOn?_single {key value : String} (hkey : key ∈ reportedExtras)
    (h : tree.eventOn? node kind [(key, value)] = some event) : event.Writable := by
  obtain ⟨source, -, rfl⟩ := Option.map_eq_some_iff.mp h
  refine writable_of_keys fun k hk => ?_
  obtain rfl : k = key := List.mem_singleton.mp hk
  exact hkey

theorem writable_selectionOn? {index : Int} (h : tree.selectionOn? node index = some event) :
    event.Writable := by
  unfold selectionOn? at h
  split at h
  · cases h
  · exact writable_eventOn?_single (by decide) h

/-- **Every event that is reported can be written**, whatever texts the tree holds. -/
theorem writable_report? {interaction : Interaction} (h : tree.report? interaction = some event) :
    event.Writable := by
  cases interaction with
  | command target =>
    simp only [report?] at h
    split at h
    · unfold activationOf? at h
      split at h
      · exact writable_eventOn?_nil h
      · split at h
        · exact writable_eventOn?_nil h
        split at h
        · exact writable_selectionOn? h
        · exact writable_selectionOn? h
    · exact writable_eventOn?_nil h
  | select target => exact writable_selectionOn? h
  | pick id =>
    obtain ⟨target, -, htarget⟩ := Option.bind_eq_some_iff.mp h
    exact writable_eventOn?_single (by decide) htarget
  | change target => exact writable_eventOn?_single (by decide) h

end Tree

/-! ## §2 Cycles -/

namespace Client

variable {World : Type} {client : Client} {world after : World}
  {exchange : Link → World → Except Fault Reply × Link × World} {link : Link}

/-- A cycle whose exchange fails leaves the window alone. -/
theorem cycle_of_error {fault : Fault}
    (h : exchange client.link world = (.error fault, link, after)) :
    client.cycle exchange world = (.error fault, { client with link, status := .idle }, after) := by
  simp only [cycle, h]

/-- A cycle shows a reply that can be carried out. -/
theorem cycle_of_reply {reply : Reply} {builder : Builder} {host : Host}
    (h : exchange client.link world = (.ok reply, link, after))
    (hrun : client.builder.run { tree := client.tree } reply = (.ok (), builder, host)) :
    client.cycle exchange world =
      (.ok (), { client with link, builder, tree := host.tree, status := .done }, after) := by
  simp only [cycle, h, apply, hrun]

/-- A cycle whose reply cannot be carried out leaves the window as it was at the fault. -/
theorem cycle_of_fault {reply : Reply} {fault : Fault} {builder : Builder} {host : Host}
    (h : exchange client.link world = (.ok reply, link, after))
    (hrun : client.builder.run { tree := client.tree } reply = (.error fault, builder, host)) :
    client.cycle exchange world = (.error fault,
      { client with link, builder, tree := host.tree, status := .idle }, after) := by
  simp only [cycle, h, apply, hrun]

/-! ## §3 Firing -/

variable {conduit : Conduit World} {interaction : Interaction} {event : Event} {doc : Document}

/-- An interaction that is not reported changes nothing. -/
theorem fire_of_none (h : client.tree.report? interaction = none) :
    client.fire conduit interaction world = (.ok none, client, world) := by
  rw [fire, h]

/-- In a session an event is always sent. -/
theorem exists_eventRequest (h : client.tree.report? interaction = some event) {token : Token}
    (htoken : client.link.session = some token) :
    ∃ doc, client.link.eventRequest event = .ok doc :=
  ⟨_, Link.eventRequest_eq_ok_iff.mpr ⟨token, htoken,
    eventDocument_of_writable (Tree.writable_report? h) token _⟩⟩

/-- A live client fires an interaction that is reported in one cycle. -/
theorem fire_of_live (hlive : client.isSimulation = false)
    (h : client.tree.report? interaction = some event) :
    client.fire conduit interaction world =
      let outcome := client.cycle (Link.report conduit event) world
      (outcome.1.map fun _ => some event, outcome.2) := by
  rw [fire, h]
  dsimp only
  rw [if_neg (by rw [hlive]; decide)]
  rcases client.cycle (Link.report conduit event) world with ⟨result, after⟩
  cases result <;> rfl

/-- An event that does not come back as a reply leaves the window alone. -/
theorem fire_of_error {fault : Fault} (hlive : client.isSimulation = false)
    (h : client.tree.report? interaction = some event)
    (hreport : client.link.report conduit event world = (.error fault, link, after)) :
    client.fire conduit interaction world =
      (.error fault, { client with link, status := .idle }, after) := by
  rw [fire_of_live hlive h, cycle_of_error hreport]
  rfl

/-- A reply that can be carried out is shown in the window. -/
theorem fire_of_reply {reply : Reply} {builder : Builder} {host : Host}
    (hlive : client.isSimulation = false) (h : client.tree.report? interaction = some event)
    (hreport : client.link.report conduit event world = (.ok reply, link, after))
    (hrun : client.builder.run { tree := client.tree } reply = (.ok (), builder, host)) :
    client.fire conduit interaction world =
      (.ok (some event),
        { client with link, builder, tree := host.tree, status := .done }, after) := by
  rw [fire_of_live hlive h, cycle_of_reply hreport hrun]
  rfl

end Client

end RemoteUi
