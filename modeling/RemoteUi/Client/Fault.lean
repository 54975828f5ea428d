import RemoteUi.Tree.Basic
import RemoteUi.Wire.Command
import RemoteUi.Wire.Error

/-!
# Faults of the client

What can go wrong between a user's interaction and the window that shows its outcome.  A fault
that arises while a command is carried out is annotated with the command's line.
-/

namespace RemoteUi

open RemoteUi.Wire

/-- Why the client could not do what it was asked to. -/
inductive Fault where
  /-- The request did not reach the server, or its answer did not come back. -/
  | transport (path reason : String)
  | wire (error : WireError)
  /-- An event cannot be sent before a session was booted. -/
  | noSession
  /-- No node has the id that a command names. -/
  | unresolved (id : NodeId)
  /-- The window refused an edit. -/
  | host (error : TreeError)
  /-- The fault arose while a command was carried out. -/
  | command (line : Line) (cause : Fault)
  deriving DecidableEq, Repr

namespace Fault

/-- The words for a fault. -/
def message : Fault → String
  | .transport path reason => "transport failure on " ++ path ++ ": " ++ reason
  | .wire error => "protocol error: " ++ error.message
  | .noSession => "firing event with no session"
  | .unresolved id => "cannot find node by id: " ++ id
  | .host error => "host rejected operation: " ++ error.message
  | .command line cause => "cannot apply command " ++ line.display ++ ": " ++ cause.message

/-- The fault itself, without the annotations. -/
def innermost : Fault → Fault
  | .command _ cause => cause.innermost
  | fault => fault

/-- The line of the command that was being carried out; of nested annotations the outer one. -/
def line? : Fault → Option Line
  | .command line _ => some line
  | _ => none

end Fault

end RemoteUi
