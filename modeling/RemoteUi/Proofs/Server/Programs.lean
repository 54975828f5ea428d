import RemoteUi.Server.Answer

/-!
# What programs and sessions do

Each function of a program and of a session has one lemma that says everything it can do.  A
program refuses an event before it touches anything, or takes it and puts commands into the outbox
behind those that are there; so what stood in the outbox before makes no difference.

* §1 outboxes;
* §2 events and boots in a program;
* §3 events and boots in a session;
* §4 requests to a server.
-/

namespace RemoteUi

open RemoteUi.Text RemoteUi.Wire

/-! ## §1 Outboxes -/

/-- The outbox with more commands in it. -/
def Outbox.adding (out : Outbox) (lines : List Line) : Outbox :=
  { out with lines := out.lines ++ lines }

@[simp] theorem Outbox.adding_nil (out : Outbox) : out.adding [] = out := by
  simp [adding]

/-- Taking the commands out of an outbox to which they were added when it was empty. -/
theorem Outbox.take_adding {out : Outbox} (hempty : out.lines = []) (lines : List Line) :
    (out.adding lines).take = (lines, out) := by
  obtain ⟨issued, _⟩ := out
  cases hempty
  rfl

/-! ## §2 Programs -/

/-- A click on an element without a check mark. -/
def clickOn (node : NodeId) : Event := { kind := .click, source := node, checked := none, extra := ∅ }

/-- How a counter takes an event, with the counter afterwards and the commands for its window. -/
inductive Counter.Takes (counter : Counter) (nodes : CounterNodes) (event : Event) :
    Counter → List Line → Prop where
  /-- The button counts on by the chosen step. -/
  | increment (hkind : event.kind = .click) (hsource : event.source = nodes.button) :
      Takes counter nodes event { counter with count := counter.count + counter.step }
        [(Command.set nodes.display "value"
          (some (numberText (counter.count + counter.step)))).toLine]
  /-- The check box starts from zero again while it is checked. -/
  | restart (hkind : event.kind = .click) (hsource : event.source = nodes.reset)
      (hchecked : event.checked = some "true") :
      Takes counter nodes event { counter with count := 0 }
        [(Command.set nodes.display "value" (some (numberText 0))).toLine]
  /-- While it is not checked its click does nothing. -/
  | leave (hkind : event.kind = .click) (hsource : event.source = nodes.reset)
      (hchecked : event.checked ≠ some "true") : Takes counter nodes event counter []
  /-- The list chooses another step, and the button shows it. -/
  | choose (step : Int64) (hkind : event.kind = .select) (hsource : event.source = nodes.steps)
      (hstep : stepAt? ((event.extra.get? "selectedIndex").getD "") = some step) :
      Takes counter nodes event { counter with step }
        [(Command.set nodes.button "label" (some ("Increment by " ++ numberText step))).toLine]

/-- **A counter refuses an event and changes nothing, or it takes the event.** -/
theorem Counter.handle_cases (counter : Counter) (event : Event) :
    (∃ e, ∀ out, counter.handle event out = (.error e, counter, out)) ∨
      ∃ nodes counter' lines, counter.nodes = some nodes ∧
        counter.Takes nodes event counter' lines ∧
        ∀ out, counter.handle event out = (.ok (), counter', out.adding lines) := by
  unfold handle
  cases counter.nodes with
  | none => exact .inl ⟨_, fun _ => rfl⟩
  | some nodes =>
    dsimp only
    split
    · next h => exact .inr ⟨nodes, _, _, rfl, .increment h.1 h.2, fun _ => rfl⟩
    split
    · next h =>
      split
      · next hchecked =>
        exact .inr ⟨nodes, _, _, rfl, .restart h.1 h.2 hchecked, fun _ => rfl⟩
      · next hchecked =>
        exact .inr ⟨nodes, _, _, rfl, .leave h.1 h.2 hchecked, fun out => by simp⟩
    split
    · next h =>
      cases hstep : stepAt? ((event.extra.get? "selectedIndex").getD "") with
      | none => exact .inl ⟨_, fun _ => rfl⟩
      | some step => exact .inr ⟨nodes, _, _, rfl, .choose step h.1 h.2 hstep, fun _ => rfl⟩
    split
    · exact .inl ⟨_, fun _ => rfl⟩
    · exact .inl ⟨_, fun _ => rfl⟩

/-- **A program refuses an event and changes nothing, or it adds commands to the outbox**, the same
ones to every outbox. -/
theorem Program.handle_cases (program : Program) (event : Event) :
    (∃ e, ∀ out, program.handle event out = (.error e, program, out)) ∨
      ∃ program' lines, ∀ out, program.handle event out = (.ok (), program', out.adding lines) := by
  cases program with
  | hello => exact .inl ⟨_, fun _ => rfl⟩
  | counter c =>
    rcases c.handle_cases event with ⟨e, h⟩ | ⟨nodes, c', lines, -, -, h⟩
    · exact .inl ⟨e, fun out => by simp only [handle, h]⟩
    · exact .inr ⟨.counter c', lines, fun out => by simp only [handle, h]⟩

/-- **What a counter sends and becomes when it takes an event is one of the four ways.** -/
theorem Counter.takes_of_handle {counter : Counter} {event : Event} {program : Program}
    {lines : List Line}
    (h : ∀ out, (Program.counter counter).handle event out = (.ok (), program, out.adding lines)) :
    ∃ nodes counter', counter.nodes = some nodes ∧ program = .counter counter' ∧
      counter.Takes nodes event counter' lines := by
  have hempty := h Outbox.empty
  simp only [Program.handle] at hempty
  rcases counter.handle_cases event with ⟨e, hhandle⟩ | ⟨nodes, counter', lines', hnodes, htakes,
    hhandle⟩
  · rw [hhandle] at hempty
    cases hempty
  · rw [hhandle] at hempty
    obtain ⟨-, hprogram, hout⟩ := Prod.mk.inj hempty |>.imp_right Prod.mk.inj
    have hlines : lines' = lines := congrArg Outbox.lines hout
    exact ⟨nodes, counter', hnodes, hprogram.symm, hlines ▸ htakes⟩

/-- A counter that has nodes keeps them, and its step is one of those that it offers. -/
theorem Counter.Takes.keeps {counter counter' : Counter} {nodes : CounterNodes} {event : Event}
    {lines : List Line} (h : counter.Takes nodes event counter' lines)
    (hstep : counter.step ∈ Counter.steps) :
    counter'.nodes = counter.nodes ∧ counter'.step ∈ Counter.steps := by
  cases h with
  | increment | restart | leave => exact ⟨rfl, hstep⟩
  | choose step _ _ hchosen =>
    obtain ⟨i, -, hi⟩ := Option.bind_eq_some_iff.mp hchosen
    exact ⟨rfl, List.mem_of_getElem? hi⟩

/-! ## §3 Sessions -/

/-- Nothing stays in the outbox of a session between two requests. -/
def Session.IsClear (session : Session) : Prop := session.outbox.lines = []

/-- A new session has sent the commands of its program's boot, and nothing is left. -/
theorem Session.start_eq (program : Program) (count : UInt64) :
    Session.start program count = ((program.boot Outbox.empty).2.lines,
      { program := (program.boot Outbox.empty).1,
        outbox := { (program.boot Outbox.empty).2 with lines := [] }, last := count }) := rfl

theorem Session.isClear_start (program : Program) (count : UInt64) :
    (Session.start program count).2.IsClear := rfl

theorem Session.program_start (program : Program) (count : UInt64) :
    (Session.start program count).2.program = (program.boot Outbox.empty).1 := rfl

/-- What becomes of an event in a session that is clear, with the session afterwards. -/
inductive Session.Takes (session : Session) (event : Event) (count : UInt64) :
    Except Refusal (List Line) → Session → Prop where
  /-- The number does not follow the last one: the program is not asked. -/
  | stale (h : count ≤ session.last) :
      Takes session event count (.error (.staleRequest session.last count)) session
  /-- The program refuses the event: the number counts as taken all the same. -/
  | refused (e : ProgramError) (h : session.last < count)
      (hhandle : ∀ out, session.program.handle event out = (.error e, session.program, out)) :
      Takes session event count (.error (.program e)) { session with last := count }
  /-- The program takes the event, and its commands are sent. -/
  | accepted (program : Program) (lines : List Line) (h : session.last < count)
      (hhandle : ∀ out, session.program.handle event out = (.ok (), program, out.adding lines)) :
      Takes session event count (.ok lines) { session with program, last := count }

theorem Session.take_takes (session : Session) (hclear : session.IsClear) (event : Event)
    (count : UInt64) :
    session.Takes event count (session.take event count).1 (session.take event count).2 := by
  unfold Session.take
  split
  · next h => exact .stale h
  · next h =>
    have hlt : session.last < count := UInt64.not_le.mp h
    rcases session.program.handle_cases event with ⟨e, hhandle⟩ | ⟨program, lines, hhandle⟩
    · simp only [hhandle]
      exact .refused e hlt hhandle
    · simp only [hhandle]
      rw [Outbox.take_adding hclear]
      exact .accepted program lines hlt hhandle

/-! ## §4 Servers -/

/-- The answer to an event that came to a session. -/
def Answer.ofReport : Except Refusal (List Line) → Answer
  | .ok lines => .accepted lines
  | .error refusal => .refused refusal

variable (server : Server)

/-- A boot looks at no session. -/
theorem Server.take_boot (fresh : Token) (name : Option String) (count : UInt64) :
    server.take fresh (.boot name count) =
      match Program.launch? (server.programFor name) with
      | none => (.refused (.unknownProgram (server.programFor name)), server)
      | some program => (.booted fresh (Session.start program count).1,
          { server with
            sessions := server.sessions.insert fresh (Session.start program count).2 }) := by
  simp only [take, Sessions.boot]
  cases Program.launch? (server.programFor name) <;> rfl

/-- An event looks at one session. -/
theorem Server.take_event (fresh token : Token) (event : Event) (count : UInt64) :
    server.take fresh (.event token event count) =
      match server.sessions.get? token with
      | none => (.refused (.unknownSession token), server)
      | some session => (Answer.ofReport (session.take event count).1,
          { server with
            sessions := server.sessions.insert token (session.take event count).2 }) := by
  simp only [take, Sessions.report]
  cases server.sessions.get? token with
  | none => rfl
  | some session =>
    dsimp only
    cases (session.take event count).1 <;> rfl

/-- A request that is taken is no bad request. -/
theorem Server.status_take (fresh : Token) (request : Request) :
    (server.take fresh request).1.status = 200 := by
  cases request with
  | boot name count =>
    rw [take_boot]
    cases Program.launch? (server.programFor name) <;> rfl
  | event token event count =>
    rw [take_event]
    cases server.sessions.get? token with
    | none => rfl
    | some session =>
      dsimp only
      cases (session.take event count).1 <;> rfl

end RemoteUi
