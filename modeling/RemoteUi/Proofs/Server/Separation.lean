import RemoteUi.Proofs.Server.Programs

/-!
# Sessions do not interfere

What a session answers depends on the requests that concern it, and on nothing else: if all other
requests to the server are left out, whatever they are and whatever becomes of them, the answers
to those that concern the session are the same.

* §1 exchanges with a server, and the session that they concern;
* §2 one exchange: what it depends on, and what it leaves alone;
* §3 a run of exchanges.
-/

namespace RemoteUi

open RemoteUi.Wire

/-! ## §1 Exchanges -/

/-- The text of a request, with the token that a session gets if the request starts one. -/
structure Delivery where
  fresh : Token
  text : String

/-- A delivery and the answer to it. -/
structure Exchange where
  delivery : Delivery
  answer : Answer

/-- Whether an exchange concerns a session: it started the session, or its request is an event for
it.  The event concerns the session even where no session has the token, or where it is refused. -/
def Exchange.concerns (token : Token) (exchange : Exchange) : Bool :=
  match Request.ofText exchange.delivery.text, exchange.answer with
  | .ok (.boot ..), .booted issued _ => issued = token
  | .ok (.event addressee ..), _ => addressee = token
  | _, _ => false

namespace Server

/-- The exchange that a delivery leads to. -/
def exchange (server : Server) (delivery : Delivery) : Exchange :=
  ⟨delivery, (server.answer delivery.fresh delivery.text).1⟩

@[simp] theorem delivery_exchange (server : Server) (delivery : Delivery) :
    (server.exchange delivery).delivery = delivery := rfl

/-- The server after a delivery. -/
def after (server : Server) (delivery : Delivery) : Server :=
  (server.answer delivery.fresh delivery.text).2

/-- The exchanges of a run, in order. -/
def exchanges (server : Server) : List Delivery → List Exchange
  | [] => []
  | delivery :: deliveries =>
    server.exchange delivery :: exchanges (server.after delivery) deliveries

/-- The deliveries of a run that concern a session. -/
def deliveriesFor (server : Server) (token : Token) (deliveries : List Delivery) : List Delivery :=
  ((server.exchanges deliveries).filter (·.concerns token)).map (·.delivery)

/-! ## §2 One exchange -/

/-- Two servers with the same session under a token, or both without one. -/
structure AgreeOn (token : Token) (a b : Server) : Prop where
  default : a.defaultProgram = b.defaultProgram
  session : a.sessions.get? token = b.sessions.get? token

variable {a b : Server} {token : Token}

/-- What a server answers to a request that concerns a session is determined by that session, and
so is the session afterwards. -/
theorem AgreeOn.exchange (h : AgreeOn token a b) (delivery : Delivery)
    (hconcerns : (a.exchange delivery).concerns token) :
    b.exchange delivery = a.exchange delivery ∧
      AgreeOn token (a.after delivery) (b.after delivery) := by
  unfold Exchange.concerns Server.exchange at hconcerns
  unfold Server.exchange Server.after Server.answer at *
  cases hrequest : Request.ofText delivery.text with
  | error e =>
    rw [hrequest] at hconcerns
    cases hconcerns
  | ok request =>
    simp only [hrequest] at hconcerns ⊢
    cases request with
    | boot name count =>
      have hname : b.programFor name = a.programFor name := by
        simp only [programFor, h.default]
      simp only [take_boot, hname]
      cases Program.launch? (a.programFor name) with
      | none => exact ⟨rfl, h⟩
      | some program =>
        exact ⟨rfl, h.default, by simp only [Dict.get?_insert, h.session]⟩
    | event addressee event count =>
      obtain rfl : addressee = token := by simpa using hconcerns
      simp only [take_event, ← h.session]
      cases a.sessions.get? addressee with
      | none => exact ⟨rfl, h⟩
      | some session =>
        exact ⟨rfl, h.default, by simp only [Dict.get?_insert_self]⟩

/-- An exchange that does not concern a session leaves it alone. -/
theorem agreeOn_after (delivery : Delivery) (hother : ¬(a.exchange delivery).concerns token) :
    AgreeOn token (a.after delivery) a := by
  unfold Exchange.concerns Server.exchange Server.answer at hother
  unfold Server.after Server.answer
  cases hrequest : Request.ofText delivery.text with
  | error e => exact ⟨rfl, rfl⟩
  | ok request =>
    simp only [hrequest] at hother ⊢
    cases request with
    | boot name count =>
      simp only [take_boot] at hother ⊢
      cases hlaunch : Program.launch? (a.programFor name) with
      | none => exact ⟨rfl, rfl⟩
      | some program =>
        simp only [hlaunch, decide_eq_true_eq] at hother
        exact ⟨rfl, by simp only [Dict.get?_insert, if_neg hother]⟩
    | event addressee event count =>
      have hne : addressee ≠ token := by simpa using hother
      simp only [take_event]
      cases a.sessions.get? addressee with
      | none => exact ⟨rfl, rfl⟩
      | some session => exact ⟨rfl, by simp only [Dict.get?_insert, if_neg hne]⟩

/-! ## §3 Runs -/

/-- The requests that concern a session get the same answers from two servers that agree on it, of
which one gets no other requests. -/
theorem AgreeOn.exchanges (h : AgreeOn token a b) (deliveries : List Delivery) :
    b.exchanges (a.deliveriesFor token deliveries) =
      (a.exchanges deliveries).filter (·.concerns token) := by
  induction deliveries generalizing a b with
  | nil => rfl
  | cons delivery deliveries ih =>
    unfold deliveriesFor
    simp only [Server.exchanges]
    by_cases hconcerns : (a.exchange delivery).concerns token
    · obtain ⟨hsame, hafter⟩ := h.exchange delivery hconcerns
      simp only [List.filter_cons_of_pos hconcerns, List.map_cons, Server.exchanges,
        delivery_exchange, hsame]
      exact congrArg _ (ih hafter)
    · -- The other server does not get this request, and the session does not notice it.
      have hafter := agreeOn_after delivery hconcerns
      have hagree : AgreeOn token (a.after delivery) b :=
        ⟨hafter.default.trans h.default, hafter.session.trans h.session⟩
      simp only [List.filter_cons_of_neg hconcerns]
      exact ih hagree

/-- **Sessions do not interfere.**  The answers to the requests that concern a session are the same
if no other request comes to the server, and the session is started under the same token. -/
theorem exchanges_deliveriesFor (server : Server) (token : Token) (deliveries : List Delivery) :
    server.exchanges (server.deliveriesFor token deliveries) =
      (server.exchanges deliveries).filter (·.concerns token) :=
  AgreeOn.exchanges ⟨rfl, rfl⟩ deliveries

end Server

end RemoteUi
