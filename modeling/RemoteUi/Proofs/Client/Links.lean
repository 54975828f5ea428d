import RemoteUi.Client.Link
import RemoteUi.Proofs.Wire.Replies
import RemoteUi.Proofs.Wire.Requests
import RemoteUi.Server.Answer

/-!
# What links do

Each exchange of a link in one equation: what is sent, what becomes of the answer, and what the link
has afterwards.  The requests are read by a server as what was meant.

* §1 numbers and postings;
* §2 boots;
* §3 events;
* §4 refusals.
-/

namespace RemoteUi

open RemoteUi.Text RemoteUi.Wire

/-- What a link is asked to do. -/
inductive Act where
  | boot (program : Option String)
  | report (event : Event)

namespace Link

variable {World : Type} (conduit : Conduit World) (link : Link) (world : World)

/-! ## §1 Numbers and postings -/

/-- A number that does not wrap around is greater than the one before it. -/
theorem count_lt_next {link : Link} (h : link.count ≤ link.next) : link.count < link.next := by
  refine UInt64.lt_of_le_of_ne h fun heq => ?_
  have hnat := congrArg UInt64.toNat heq
  have hbound := link.count.toNat_lt
  simp only [next, UInt64.toNat_add, UInt64.toNat_one] at hnat
  omega

/-- The number of a request is one more than the last one, unless that was the greatest number. -/
theorem toNat_next (link : Link) (h : link.count.toNat + 1 < UInt64.size) :
    link.next.toNat = link.count.toNat + 1 := by
  simp only [next, UInt64.toNat_add, UInt64.toNat_one]
  exact Nat.mod_eq_of_lt h

/-- What is posted is the text of the document, to the link's path. -/
@[simp] theorem body_posting (doc : Document) : (link.posting doc).body = doc.text := rfl

/-! ## §2 Boots -/

/-- The link after a boot that came back like this. -/
def afterBoot (link : Link) : Except Fault String → Link
  | .error _ => link.advance
  | .ok answer => (link.advance.receiveBoot answer).2

/-- A boot in one equation. -/
theorem boot_eq (program : Option String) :
    link.boot conduit program world =
      let named := link.naming program
      let outcome := conduit (named.posting named.bootRequest) world
      (outcome.1.bind fun answer => (named.advance.receiveBoot answer).1,
        named.afterBoot outcome.1, outcome.2) := by
  unfold boot
  dsimp only
  generalize conduit ((link.naming program).posting (link.naming program).bootRequest) world =
    outcome
  obtain ⟨result, after⟩ := outcome
  cases result <;> rfl

/-- A link whose boot is answered keeps its session, or has the one whose token it reads. -/
theorem receiveBoot_cases (answer : String) :
    (link.receiveBoot answer).2 = link ∨ ∃ token stream, splitBoot answer = .ok (token, stream) ∧
      (link.receiveBoot answer).2 = { link with session := some token } := by
  unfold receiveBoot
  cases splitBoot answer with
  | error e => exact .inl rfl
  | ok parts => exact .inr ⟨parts.1, parts.2, rfl, rfl⟩

/-- A boot whose answer can be read: the link has the session that was started. -/
theorem boot_of_answer {program : Option String} {answer stream : String} {token : Token}
    {reply : Reply} {after : World}
    (hconduit : conduit ((link.naming program).posting (link.naming program).bootRequest) world =
      (.ok answer, after))
    (hsplit : splitBoot answer = .ok (token, stream)) (hreply : Reply.ofText stream = .ok reply) :
    link.boot conduit program world =
      (.ok reply, { (link.naming program).advance with session := some token }, after) := by
  rw [boot_eq]
  dsimp only
  rw [hconduit]
  simp only [Except.bind, afterBoot, receiveBoot, hsplit, hreply, Except.mapError]

/-- A boot that does not come back fails. -/
theorem boot_of_error {program : Option String} {fault : Fault} {after : World}
    (hconduit : conduit ((link.naming program).posting (link.naming program).bootRequest) world =
      (.error fault, after)) :
    link.boot conduit program world = (.error fault, (link.naming program).advance, after) := by
  rw [boot_eq]
  dsimp only
  rw [hconduit]
  rfl

/-- A boot counts, whatever becomes of it. -/
@[simp] theorem count_afterBoot (result : Except Fault String) :
    (link.afterBoot result).count = link.next := by
  cases result with
  | error fault => rfl
  | ok answer =>
    unfold afterBoot
    rcases link.advance.receiveBoot_cases answer with h | ⟨token, stream, -, h⟩ <;>
      · dsimp only
        rw [h]
        rfl

/-- A server reads the request of a boot as what was meant. -/
theorem ofText_bootRequest : Request.ofText (link.posting link.bootRequest).body =
    .ok (.boot link.program link.next) :=
  Request.ofText_bootDocument link.program link.next

/-! ## §3 Events -/

variable {conduit} {link} {world} {event : Event} {doc : Document}

/-- An event can be sent in a session, if it can be written. -/
theorem eventRequest_eq_ok_iff : link.eventRequest event = .ok doc ↔
    ∃ token, link.session = some token ∧ eventDocument event token link.next = .ok doc := by
  unfold eventRequest
  cases link.session with
  | none => simp
  | some token => cases h : eventDocument event token link.next <;> simp [h, Except.mapError]

/-- An event that cannot be sent changes nothing. -/
theorem report_of_error {fault : Fault} (h : link.eventRequest event = .error fault) :
    link.report conduit event world = (.error fault, link, world) := by
  rw [report, h]

/-- An event that is sent, in one equation. -/
theorem report_of_ok (h : link.eventRequest event = .ok doc) :
    link.report conduit event world =
      let outcome := conduit (link.posting doc) world
      (outcome.1.bind fun answer => (Reply.ofText answer).mapError .wire, link.advance,
        outcome.2) := by
  rw [report, h]
  dsimp only
  generalize conduit (link.posting doc) world = outcome
  obtain ⟨result, after⟩ := outcome
  cases result <;> rfl

/-- A server reads the request of an event as what was meant. -/
theorem ofText_eventRequest (h : link.eventRequest event = .ok doc) :
    ∃ token, link.session = some token ∧
      Request.ofText (link.posting doc).body = .ok (.event token event link.next) := by
  obtain ⟨token, htoken, hdoc⟩ := eventRequest_eq_ok_iff.mp h
  exact ⟨token, htoken, Request.ofText_eventDocument hdoc⟩

end Link

/-! ## §4 Refusals -/

/-- The answer to a refused request has the mark of an error. -/
theorem startsWith_errorMark_refused (refusal : Refusal) :
    startsWith errorMark (Answer.refused refusal).body.toList := by
  simp [Answer.body, startsWith]

/-- A refusal is an error to whoever reads it as the answer to a boot. -/
theorem splitBoot_refused (refusal : Refusal) :
    splitBoot (Answer.refused refusal).body = .error (.server (Answer.refused refusal).body) := by
  rw [splitBoot, if_pos (startsWith_errorMark_refused refusal)]

/-- A refusal is an error to whoever reads it as the answer to an event. -/
theorem ofText_refused (refusal : Refusal) :
    Reply.ofText (Answer.refused refusal).body = .error (.server (Answer.refused refusal).body) := by
  rw [Reply.ofText, if_pos (startsWith_errorMark_refused refusal)]

end RemoteUi
