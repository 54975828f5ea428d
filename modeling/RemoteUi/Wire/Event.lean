import RemoteUi.Dict

/-!
# Events

What the client reports about a user's interaction: the element it happened on, its kind, the
element's check mark if it has one, and further values by name.
-/

namespace RemoteUi.Wire

/-- The name under which the two ends know an element. -/
abbrev NodeId := String

/-- The name of a session; the server chooses it and the client only repeats it. -/
abbrev Token := String

/-- The kinds of interaction. -/
inductive EventKind where
  | click
  | select
  | pick
  | change
  deriving DecidableEq, Repr

/-- The name of a kind on the wire. -/
def EventKind.name : EventKind → String
  | .click => "Click"
  | .select => "Select"
  | .pick => "Pick"
  | .change => "Change"

/-- The kind with a given name. -/
def EventKind.ofName? : String → Option EventKind
  | "Click" => some .click
  | "Select" => some .select
  | "Pick" => some .pick
  | "Change" => some .change
  | _ => none

/-- Reading a name gives back the kind. -/
theorem EventKind.ofName?_name (kind : EventKind) : ofName? kind.name = some kind := by
  cases kind <;> rfl

/-- A user's interaction as it is reported to the server. -/
structure Event where
  /-- The element that the interaction counts for. -/
  source : NodeId
  kind : EventKind
  /-- The value of the element's check mark, if it has one. -/
  checked : Option String
  /-- Further values, such as the selected index. -/
  extra : Dict String
  deriving DecidableEq, Repr

end RemoteUi.Wire
