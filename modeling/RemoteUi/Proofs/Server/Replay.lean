import RemoteUi.Proofs.Dict
import RemoteUi.Proofs.Server.Programs

/-!
# No request is taken twice

A server keeps with each session the number of the last request it took.  Along any run of boots and
events, in whatever order and however often they are repeated, the events that come to the program of
a session have ascending numbers, all of them greater than that of its boot; a request that is
refused leaves the sessions alone, except that an event refused by a program counts as taken; and the
reply to a request has the commands of this request and no others.

* §1 runs: demands on the sessions and what becomes of them;
* §2 one turn of a run;
* §3 what holds between the turns, and the numbers of one session;
* §4 the theorem.
-/

namespace RemoteUi

open RemoteUi.Wire

/-! ## §1 Runs -/

/-- A request to the sessions of a server. -/
inductive Demand where
  /-- Boots a program; a session that is started gets the token `fresh`. -/
  | boot (fresh : Token) (program : String) (count : UInt64)
  | event (token : Token) (event : Event) (count : UInt64)

/-- Meets a demand. -/
def Sessions.meet (sessions : Sessions) : Demand → Except Refusal (List Line) × Sessions
  | .boot fresh program count => sessions.boot fresh program count
  | .event token event count => sessions.report token event count

/-- A demand in a run, with what became of it. -/
structure Turn where
  before : Sessions
  demand : Demand
  result : Except Refusal (List Line)
  after : Sessions

/-- The turn in which a demand is met. -/
def Sessions.turn (sessions : Sessions) (demand : Demand) : Turn :=
  ⟨sessions, demand, (sessions.meet demand).1, (sessions.meet demand).2⟩

/-- The turns of a run: each demand meets the sessions that the one before it left. -/
def Sessions.turns (sessions : Sessions) : List Demand → List Turn
  | [] => []
  | demand :: demands => sessions.turn demand :: turns (sessions.meet demand).2 demands

namespace Turn

/-- The token of the session that was started in a turn. -/
def issued? (turn : Turn) : Option Token :=
  match turn.demand, turn.result with
  | .boot fresh _ _, .ok _ => some fresh
  | _, _ => none

/-- The number of the request that started a session. -/
def bootOf? (token : Token) (turn : Turn) : Option UInt64 :=
  match turn.demand, turn.result with
  | .boot fresh _ count, .ok _ => if fresh = token then some count else none
  | _, _ => none

/-- The number of an event that came to the program of a session, which took it or refused it. -/
def handledBy? (token : Token) (turn : Turn) : Option UInt64 :=
  match turn.demand, turn.result with
  | .event t _ count, .ok _ => if t = token then some count else none
  | .event t _ count, .error (.program _) => if t = token then some count else none
  | _, _ => none

end Turn

/-! ## §2 One turn -/

/-- What becomes of a demand on sessions that are all clear, with the sessions afterwards. -/
inductive Sessions.Meets (sessions : Sessions) :
    Demand → Except Refusal (List Line) → Sessions → Prop where
  | unknownProgram (fresh : Token) (name : String) (count : UInt64)
      (hlaunch : Program.launch? name = none) :
      Meets sessions (.boot fresh name count) (.error (.unknownProgram name)) sessions
  /-- A session is started, and the commands of its program's boot are sent. -/
  | booted (fresh : Token) (name : String) (count : UInt64) (program : Program) (session : Session)
      (hlaunch : Program.launch? name = some program) (hclear : session.IsClear)
      (hlast : session.last = count) :
      Meets sessions (.boot fresh name count) (.ok (program.boot Outbox.empty).2.lines)
        (sessions.insert fresh session)
  | unknownSession (token : Token) (event : Event) (count : UInt64)
      (hget : sessions.get? token = none) :
      Meets sessions (.event token event count) (.error (.unknownSession token)) sessions
  | stale (token : Token) (event : Event) (count : UInt64) (session : Session)
      (hget : sessions.get? token = some session) (h : count ≤ session.last) :
      Meets sessions (.event token event count) (.error (.staleRequest session.last count)) sessions
  /-- The program refuses the event: only the number of the session moves on. -/
  | refused (token : Token) (event : Event) (count : UInt64) (session : Session) (e : ProgramError)
      (hget : sessions.get? token = some session) (h : session.last < count) :
      Meets sessions (.event token event count) (.error (.program e))
        (sessions.insert token { session with last := count })
  /-- The program takes the event, and what it added to the outbox is sent. -/
  | accepted (token : Token) (event : Event) (count : UInt64) (session : Session)
      (program : Program) (lines : List Line) (hget : sessions.get? token = some session)
      (h : session.last < count)
      (hhandle : ∀ out, session.program.handle event out = (.ok (), program, out.adding lines)) :
      Meets sessions (.event token event count) (.ok lines)
        (sessions.insert token { session with program, last := count })

/-- All sessions are clear, as they are between two requests. -/
def Sessions.AllClear (sessions : Sessions) : Prop :=
  ∀ token session, sessions.get? token = some session → session.IsClear

variable {sessions : Sessions} {demand : Demand} {demands : List Demand} {token : Token}

/-- **Every demand is met in one of six ways.** -/
theorem Sessions.meet_meets (hclear : sessions.AllClear) (demand : Demand) :
    sessions.Meets demand (sessions.meet demand).1 (sessions.meet demand).2 := by
  cases demand with
  | boot fresh name count =>
    simp only [meet, boot]
    cases hlaunch : Program.launch? name with
    | none => exact .unknownProgram fresh name count hlaunch
    | some program =>
      dsimp only
      rw [Session.start_eq]
      exact .booted fresh name count program _ hlaunch rfl rfl
  | event token event count =>
    simp only [meet, report]
    cases hget : sessions.get? token with
    | none => exact .unknownSession token event count hget
    | some session =>
      have htakes := session.take_takes (hclear token session hget) event count
      dsimp only
      generalize session.take event count = outcome at htakes ⊢
      obtain ⟨result, after⟩ := outcome
      dsimp only at htakes ⊢
      cases htakes with
      | stale h =>
        rw [Dict.insert_eq_self hget]
        exact .stale token event count session hget h
      | refused e h => exact .refused token event count session e hget h
      | accepted program lines h hhandle =>
        exact .accepted token event count session program lines hget h hhandle

/-- All sessions stay clear. -/
theorem Sessions.AllClear.meet (hclear : sessions.AllClear) (demand : Demand) :
    (sessions.meet demand).2.AllClear := by
  -- One session is set at most, and it is clear.
  have hset : ∀ (token : Token) (session : Session), session.IsClear →
      Sessions.AllClear (sessions.insert token session) := by
    intro token session hsession t s hget
    rw [Dict.get?_insert] at hget
    split at hget
    · cases hget
      exact hsession
    · exact hclear t s hget
  have hmeets := Sessions.meet_meets hclear demand
  generalize sessions.meet demand = outcome at hmeets ⊢
  obtain ⟨result, after⟩ := outcome
  cases hmeets with
  | unknownProgram | unknownSession | stale => exact hclear
  | booted fresh name count program session _ hsession => exact hset fresh session hsession
  | refused token event count session e hget => exact hset token _ (hclear token session hget)
  | accepted token event count session program lines hget =>
    exact hset token _ (hclear token session hget)

/-- Between the turns of a run that starts with clear sessions all sessions are clear. -/
theorem Sessions.allClear_of_mem_turns (hclear : sessions.AllClear) {turn : Turn}
    (hturn : turn ∈ sessions.turns demands) :
    turn.before.AllClear ∧ turn.result = (turn.before.meet turn.demand).1 ∧
      turn.after = (turn.before.meet turn.demand).2 := by
  induction demands generalizing sessions with
  | nil => cases hturn
  | cons demand demands ih =>
    rcases List.mem_cons.mp hturn with rfl | hturn
    · exact ⟨hclear, rfl, rfl⟩
    · exact ih (hclear.meet demand) hturn

/-! ## §3 The numbers of one session -/

/-- The tokens that are issued in a run. -/
def issued (turns : List Turn) : List Token := turns.filterMap (·.issued?)

/-- The numbers of the requests that start a session in a run. -/
def boots (token : Token) (turns : List Turn) : List UInt64 := turns.filterMap (·.bootOf? token)

/-- The numbers of the events that come to the program of a session in a run. -/
def handled (token : Token) (turns : List Turn) : List UInt64 :=
  turns.filterMap (·.handledBy? token)

/-- In a turn in which the token is not issued no session is started under it. -/
theorem Turn.bootOf?_eq_none {turn : Turn} (h : turn.issued? ≠ some token) :
    turn.bootOf? token = none := by
  unfold issued? at h
  unfold bootOf?
  split <;> simp_all

/-- **A session that is there stays there.**  An event that comes to its program has a number above
the last one and becomes the last one; nothing else moves the number. -/
theorem Sessions.get?_turn_of_some (hclear : sessions.AllClear) {session : Session}
    (hget : sessions.get? token = some session)
    (hissued : (sessions.turn demand).issued? ≠ some token) :
    ∃ session', (sessions.turn demand).after.get? token = some session' ∧
      ((sessions.turn demand).handledBy? token = none ∧ session'.last = session.last ∨
        (sessions.turn demand).handledBy? token = some session'.last ∧
          session.last < session'.last) := by
  -- An event moves on the number of its session, and other sessions do not notice it.
  have hmoved : ∀ (t : Token) (old new : Session), sessions.get? t = some old →
      old.last < new.last → ∃ session', Dict.get? (sessions.insert t new) token = some session' ∧
        ((if t = token then some new.last else none) = none ∧ session'.last = session.last ∨
          (if t = token then some new.last else none) = some session'.last ∧
            session.last < session'.last) := by
    intro t old new hold hlt
    rw [Dict.get?_insert]
    by_cases heq : t = token
    · subst heq
      obtain rfl := Option.some.inj (hget.symm.trans hold)
      exact ⟨new, if_pos rfl, .inr ⟨if_pos rfl, hlt⟩⟩
    · exact ⟨session, (if_neg heq).trans hget, .inl ⟨if_neg heq, rfl⟩⟩
  have hmeets := Sessions.meet_meets hclear demand
  unfold turn at hissued ⊢
  generalize sessions.meet demand = outcome at hmeets hissued ⊢
  obtain ⟨result, after⟩ := outcome
  dsimp only at hmeets hissued ⊢
  cases hmeets with
  | unknownProgram | unknownSession | stale => exact ⟨session, hget, .inl ⟨rfl, rfl⟩⟩
  | booted fresh name count program started =>
    -- The new session is another one.
    have hne : fresh ≠ token := fun heq => hissued (congrArg some heq)
    exact ⟨session, by rw [Dict.get?_insert, if_neg hne, hget], .inl ⟨rfl, rfl⟩⟩
  | refused t event count old e hold hlt => exact hmoved t old { old with last := count } hold hlt
  | accepted t event count old program lines hold hlt =>
    exact hmoved t old { old with program, last := count } hold hlt

/-- A session that is not there takes no event; it is there once its token is issued. -/
theorem Sessions.get?_turn_of_none (hclear : sessions.AllClear) (hget : sessions.get? token = none)
    (demand : Demand) :
    (sessions.turn demand).handledBy? token = none ∧
      ((sessions.turn demand).issued? = some token →
        ∃ session, (sessions.turn demand).after.get? token = some session ∧
          (sessions.turn demand).bootOf? token = some session.last) ∧
      ((sessions.turn demand).issued? ≠ some token →
        (sessions.turn demand).after.get? token = none) := by
  have hother : ∀ t session, sessions.get? t = some session → t ≠ token := by
    rintro t session hsession rfl
    rw [hget] at hsession
    cases hsession
  have hmeets := Sessions.meet_meets hclear demand
  unfold turn
  generalize sessions.meet demand = outcome at hmeets ⊢
  obtain ⟨result, after⟩ := outcome
  dsimp only at hmeets ⊢
  cases hmeets with
  | unknownProgram | unknownSession | stale => exact ⟨rfl, nofun, fun _ => hget⟩
  | booted fresh name count program session _ _ hlast =>
    refine ⟨rfl, fun h => ?_, fun h => ?_⟩
    · obtain rfl := Option.some.inj h
      exact ⟨session, Dict.get?_insert_self .., by rw [hlast]; exact if_pos rfl⟩
    · rw [Dict.get?_insert, if_neg fun heq => h (congrArg some heq), hget]
  | refused t event count session e hsession =>
    have hne := hother t session hsession
    exact ⟨if_neg hne, nofun, fun _ => by rw [Dict.get?_insert, if_neg hne, hget]⟩
  | accepted t event count session program lines hsession =>
    have hne := hother t session hsession
    exact ⟨if_neg hne, nofun, fun _ => by rw [Dict.get?_insert, if_neg hne, hget]⟩

/-- A session under a token that is not issued again takes events with ascending numbers, all above
its last one. -/
theorem Sessions.ascending_of_some (hclear : sessions.AllClear) {session : Session}
    (hget : sessions.get? token = some session) (hissued : token ∉ issued (sessions.turns demands)) :
    (handled token (sessions.turns demands)).Pairwise (· < ·) ∧
      ∀ n ∈ handled token (sessions.turns demands), session.last < n := by
  induction demands generalizing sessions session with
  | nil => exact ⟨.nil, fun n hn => by cases hn⟩
  | cons demand demands ih =>
    simp only [turns, issued, List.mem_filterMap, List.mem_cons, exists_eq_or_imp, not_or] at hissued
    obtain ⟨session', hget', hnumber⟩ := Sessions.get?_turn_of_some hclear hget hissued.1
    obtain ⟨hpair, habove⟩ := ih (hclear.meet demand) hget' (by simpa [issued] using hissued.2)
    rcases hnumber with ⟨hnone, hlast⟩ | ⟨hsome, hlt⟩
    · simp only [turns, handled, List.filterMap_cons_none hnone]
      exact ⟨hpair, fun n hn => hlast ▸ habove n hn⟩
    · simp only [turns, handled, List.filterMap_cons_some hsome, List.pairwise_cons]
      refine ⟨⟨habove, hpair⟩, fun n hn => ?_⟩
      rcases List.mem_cons.mp hn with rfl | hn
      · exact hlt
      · exact UInt64.lt_trans hlt (habove n hn)

/-- A session that is not there and is started at most once takes events with ascending numbers, all
above the number of its only boot. -/
theorem Sessions.ascending_of_none (hclear : sessions.AllClear) (hget : sessions.get? token = none)
    (hissued : (issued (sessions.turns demands)).Nodup) :
    (handled token (sessions.turns demands)).Pairwise (· < ·) ∧
      ∀ n ∈ handled token (sessions.turns demands),
        ∃ b, boots token (sessions.turns demands) = [b] ∧ b < n := by
  induction demands generalizing sessions with
  | nil => exact ⟨.nil, fun n hn => by cases hn⟩
  | cons demand demands ih =>
    obtain ⟨hnone, hstarted, hstill⟩ := Sessions.get?_turn_of_none hclear hget demand
    simp only [turns, handled, List.filterMap_cons_none hnone]
    by_cases htoken : (sessions.turn demand).issued? = some token
    · -- From now on the session is there, and its token is not issued again.
      simp only [turns, issued, List.filterMap_cons_some htoken, List.nodup_cons] at hissued
      obtain ⟨session, hget', hboot⟩ := hstarted htoken
      obtain ⟨hpair, habove⟩ := Sessions.ascending_of_some (hclear.meet demand) hget' hissued.1
      have hlater : boots token (Sessions.turns (sessions.meet demand).2 demands) = [] := by
        refine List.filterMap_eq_nil_iff.mpr fun turn hturn => Turn.bootOf?_eq_none fun hagain => ?_
        exact hissued.1 (List.mem_filterMap.mpr ⟨turn, hturn, hagain⟩)
      refine ⟨hpair, fun n hn => ⟨session.last, ?_, habove n hn⟩⟩
      rw [boots, List.filterMap_cons_some hboot]
      exact congrArg _ hlater
    · have hrest : (issued (Sessions.turns (sessions.meet demand).2 demands)).Nodup := by
        refine hissued.sublist (List.Sublist.filterMap _ ?_)
        exact List.sublist_cons_self ..
      simp only [boots, List.filterMap_cons_none (Turn.bootOf?_eq_none htoken)]
      exact ih (hclear.meet demand) (hstill htoken) hrest

/-! ## §4 The theorem -/

/-- A run in which no request is taken twice, and none leaves anything behind for another one. -/
structure ReplaySafe (turns : List Turn) : Prop where
  /-- The events that come to the program of a session have ascending numbers. -/
  ascending : ∀ token, (handled token turns).Pairwise (· < ·)
  /-- They come to sessions that were booted once, with a smaller number. -/
  afterBoot : ∀ token, ∀ n ∈ handled token turns, ∃ b, boots token turns = [b] ∧ b < n
  /-- A request that does not come to a program changes no session. -/
  rejected : ∀ turn ∈ turns, ∀ refusal, turn.result = .error refusal →
    (∀ e, refusal ≠ .program e) → turn.after = turn.before
  /-- An event that a program refuses changes nothing but the number of the last request. -/
  refused : ∀ turn ∈ turns, ∀ e, turn.result = .error (.program e) →
    ∃ token event count session, turn.demand = .event token event count ∧
      turn.before.get? token = some session ∧
      turn.after = turn.before.insert token { session with last := count }
  /-- Between two requests the outboxes of all sessions are empty. -/
  emptied : ∀ turn ∈ turns, turn.before.AllClear ∧ turn.after.AllClear
  /-- The reply to a boot has the commands that the program's boot puts into an empty outbox. -/
  bootReply : ∀ turn ∈ turns, ∀ fresh name count lines, turn.demand = .boot fresh name count →
    turn.result = .ok lines → ∃ program, Program.launch? name = some program ∧
      lines = (program.boot Outbox.empty).2.lines
  /-- The reply to an event has the commands that the program puts into the outbox, whatever
  outbox that is. -/
  eventReply : ∀ turn ∈ turns, ∀ token event count lines, turn.demand = .event token event count →
    turn.result = .ok lines → ∃ session program, turn.before.get? token = some session ∧
      (∀ out, session.program.handle event out = (.ok (), program, out.adding lines)) ∧
      turn.after = turn.before.insert token { session with program, last := count }

/-- Every turn of a run from clear sessions is one of the six. -/
theorem Sessions.meets_of_mem_turns (hclear : sessions.AllClear) {turn : Turn}
    (hturn : turn ∈ sessions.turns demands) :
    turn.before.Meets turn.demand turn.result turn.after := by
  obtain ⟨hbefore, hresult, hafter⟩ := Sessions.allClear_of_mem_turns hclear hturn
  rw [hresult, hafter]
  exact Sessions.meet_meets hbefore turn.demand

/-- A server that starts has no sessions. -/
theorem Sessions.allClear_empty : Sessions.AllClear ∅ := by
  intro token session hget
  rw [Dict.get?_empty] at hget
  cases hget

/-- **No request is taken twice, and no request leaves anything behind.**  A server that starts
without sessions and never issues a token a second time is safe, whatever is demanded of it. -/
theorem Sessions.replaySafe_turns (demands : List Demand)
    (hfresh : (issued (Sessions.turns ∅ demands)).Nodup) : ReplaySafe (Sessions.turns ∅ demands) := by
  have hclear := Sessions.allClear_empty
  have hmeets : ∀ turn ∈ Sessions.turns ∅ demands,
      turn.before.Meets turn.demand turn.result turn.after :=
    fun _ => Sessions.meets_of_mem_turns hclear
  exact {
    ascending := fun token =>
      (Sessions.ascending_of_none hclear (Dict.get?_empty token) hfresh).1
    afterBoot := fun token =>
      (Sessions.ascending_of_none hclear (Dict.get?_empty token) hfresh).2
    rejected := by
      rintro ⟨before, demand, result, after⟩ hturn refusal hresult hother
      have hcase := hmeets _ hturn
      dsimp only at hcase hresult ⊢
      subst hresult
      cases hcase with
      | unknownProgram | unknownSession | stale => rfl
      | refused t event count session e => exact absurd rfl (hother e)
    refused := by
      rintro ⟨before, demand, result, after⟩ hturn e hresult
      have hcase := hmeets _ hturn
      dsimp only at hcase hresult ⊢
      subst hresult
      cases hcase with
      | refused t event count session _ hget => exact ⟨t, event, count, session, rfl, hget, rfl⟩
    emptied := by
      intro turn hturn
      obtain ⟨hbefore, -, hafter⟩ := Sessions.allClear_of_mem_turns hclear hturn
      exact ⟨hbefore, hafter ▸ hbefore.meet turn.demand⟩
    bootReply := by
      rintro ⟨before, demand, result, after⟩ hturn fresh name count lines hdemand hresult
      have hcase := hmeets _ hturn
      dsimp only at hcase hdemand hresult
      subst hdemand hresult
      cases hcase with
      | booted _ _ _ program _ hlaunch => exact ⟨program, hlaunch, rfl⟩
    eventReply := by
      rintro ⟨before, demand, result, after⟩ hturn t event count lines hdemand hresult
      have hcase := hmeets _ hturn
      dsimp only at hcase hdemand hresult ⊢
      subst hdemand hresult
      cases hcase with
      | accepted _ _ _ session program _ hget _ hhandle =>
        exact ⟨session, program, hget, hhandle, rfl⟩ }

/-- A boot, a click that counts, the same request again, a click on a label, and the click with the
next number: the refused click has used its number up. -/
def replayedClicks : List Demand :=
  [.boot "s" counterName 1, .event "s" (clickOn "E3") 2, .event "s" (clickOn "E3") 2,
    .event "s" (clickOn "E2") 3, .event "s" (clickOn "E3") 3, .event "s" (clickOn "E3") 4]

theorem Sessions.replaySafe_replayedClicks :
    (issued (Sessions.turns ∅ replayedClicks)).Nodup ∧
      handled "s" (Sessions.turns ∅ replayedClicks) = [2, 3, 4] ∧
      ReplaySafe (Sessions.turns ∅ replayedClicks) :=
  ⟨by decide +kernel, by decide +kernel, Sessions.replaySafe_turns _ (by decide +kernel)⟩

end RemoteUi
