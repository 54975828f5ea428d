import RemoteUi.Server.Sessions
import RemoteUi.Wire.Reply
import RemoteUi.Wire.Request

/-!
# Answering requests

The server takes the text of a request and answers with a text.  A text that is no request is the
only thing it calls a bad request; a request that it refuses is answered with an error in the
text, behind the error mark.
-/

namespace RemoteUi

open RemoteUi.Text RemoteUi.Wire

/-! ## §1 Answers -/

/-- What became of the text of a request. -/
inductive Answer where
  /-- It is no request. -/
  | undecodable (error : WireError)
  | refused (refusal : Refusal)
  /-- A session was started. -/
  | booted (token : Token) (lines : List Line)
  /-- An event was taken. -/
  | accepted (lines : List Line)
  deriving DecidableEq, Repr

namespace Answer

/-- The status of an answer, as a number of the hypertext protocol. -/
def status : Answer → Nat
  | .undecodable _ => 400
  | _ => 200

/-- The text of an answer. -/
def body : Answer → String
  | .undecodable error => error.message
  | .refused refusal => String.ofList errorMark ++ ": " ++ refusal.message
  | .booted token lines => frameBoot token (streamText lines)
  | .accepted lines => streamText lines

end Answer

/-! ## §2 The server -/

/-- A server with its sessions. -/
structure Server where
  /-- The program booted by a request that names none. -/
  defaultProgram : String := helloName
  sessions : Sessions := ∅
  deriving DecidableEq, Repr

namespace Server

/-- The program that a boot request asks for; the empty name names none. -/
def programFor (server : Server) (name : Option String) : String :=
  (name.filter (· ≠ "")).getD server.defaultProgram

/-- Takes a request.  A boot that is not refused starts a session under the token `fresh`. -/
def take (server : Server) (fresh : Token) : Request → Answer × Server
  | .boot name count =>
    match server.sessions.boot fresh (server.programFor name) count with
    | (.ok lines, sessions) => (.booted fresh lines, { server with sessions })
    | (.error refusal, sessions) => (.refused refusal, { server with sessions })
  | .event token event count =>
    match server.sessions.report token event count with
    | (.ok lines, sessions) => (.accepted lines, { server with sessions })
    | (.error refusal, sessions) => (.refused refusal, { server with sessions })

/-- Answers the text of a request. -/
def answer (server : Server) (fresh : Token) (text : String) : Answer × Server :=
  match Request.ofText text with
  | .error error => (.undecodable error, server)
  | .ok request => server.take fresh request

end Server

end RemoteUi
