import RemoteUi.Server.Program

/-!
# Sessions

The sessions of a server, by their tokens.  Each session has a program of its own, and each keeps
the number of the last request it took, so that no request is taken twice.
-/

namespace RemoteUi

open RemoteUi.Text RemoteUi.Wire

/-- Why the server refuses a request. -/
inductive Refusal where
  | unknownProgram (name : String)
  | unknownSession (token : Token)
  /-- The number of the request is not greater than that of the last one taken. -/
  | staleRequest (last received : UInt64)
  | program (error : ProgramError)
  deriving DecidableEq, Repr

/-- The words for a refusal. -/
def Refusal.message : Refusal → String
  | .unknownProgram name => "unknown application '" ++ name ++ "'"
  | .unknownSession token => "unknown session '" ++ token ++ "'"
  | .staleRequest last received =>
    "request counter " ++ String.ofList (writeNat received.toNat) ++ " does not follow " ++
      String.ofList (writeNat last.toNat)
  | .program error => error.message

/-- One session. -/
structure Session where
  program : Program
  outbox : Outbox
  /-- The number of the last request taken. -/
  last : UInt64
  deriving DecidableEq, Repr

/-- All sessions, by token. -/
abbrev Sessions := Dict Session

namespace Session

/-- A new session: its program is booted, and the commands are taken from its outbox. -/
def start (program : Program) (count : UInt64) : List Line × Session :=
  let (program, outbox) := program.boot Outbox.empty
  let (lines, outbox) := outbox.take
  (lines, { program, outbox, last := count })

/-- Takes an event: its number must follow the last one, and counts as taken even if the program
refuses the event. -/
def take (session : Session) (event : Event) (count : UInt64) :
    Except Refusal (List Line) × Session :=
  if count ≤ session.last then (.error (.staleRequest session.last count), session)
  else
    match session.program.handle event session.outbox with
    -- A refused event leaves no commands behind: programs refuse before they push any.
    | (.error e, program, outbox) => (.error (.program e), { program, outbox, last := count })
    | (.ok _, program, outbox) =>
      let (lines, outbox) := outbox.take
      (.ok lines, { program, outbox, last := count })

end Session

namespace Sessions

/-- Boots a program in a session of its own under a fresh token. -/
def boot (sessions : Sessions) (fresh : Token) (program : String) (count : UInt64) :
    Except Refusal (List Line) × Sessions :=
  match Program.launch? program with
  | none => (.error (.unknownProgram program), sessions)
  | some program =>
    let (lines, session) := Session.start program count
    (.ok lines, sessions.insert fresh session)

/-- Hands an event to the session it is addressed to. -/
def report (sessions : Sessions) (token : Token) (event : Event) (count : UInt64) :
    Except Refusal (List Line) × Sessions :=
  match sessions.get? token with
  | none => (.error (.unknownSession token), sessions)
  | some session =>
    let (result, session) := session.take event count
    (result, sessions.insert token session)

end Sessions

end RemoteUi
