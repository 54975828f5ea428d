import RemoteUi.Wire.Command

/-!
# JSON forms

Events and command lines also have a form as JSON values, for logs and tools.  A record is an
object with a member per field; members with other names are passed over.  It may also be given
as an array of its fields in order.  Writing leaves out what an event does not have; a line is
written with all its words.
-/

namespace RemoteUi.Wire

/-! ## §1 Values -/

/-- A JSON value.  Of numbers only the fact that they are numbers matters here. -/
inductive Json where
  | null
  | bool (value : Bool)
  | number
  | string (value : String)
  | array (elements : List Json)
  | object (members : List (String × Json))
  deriving Inhabited

namespace Json

/-- The member of an object with a given name. -/
def member? (members : List (String × Json)) (name : String) : Option Json :=
  (members.find? (·.1 = name)).map (·.2)

/-- A text. -/
def asString? : Json → Option String
  | .string s => some s
  | _ => none

/-- A text or nothing at all. -/
def asOptional? : Json → Option (Option String)
  | .null => some none
  | .string s => some (some s)
  | _ => none

/-- The members of an object whose members are all texts. -/
def texts? : List (String × Json) → Option (List (String × String))
  | [] => some []
  | (name, .string s) :: members => (texts? members).map ((name, s) :: ·)
  | _ :: _ => none

/-- An object whose members are all texts, as a dictionary. -/
def asTexts? : Json → Option (Dict String)
  | .object members => (texts? members).map Dict.ofList
  | _ => none

/-- A kind of interaction: its name, or an object whose one member has that name and no value. -/
def asKind? : Json → Option EventKind
  | .string name => EventKind.ofName? name
  | .object [(name, .null)] => EventKind.ofName? name
  | _ => none

/-- A text, or null for none. -/
def ofOptional : Option String → Json
  | some s => .string s
  | none => .null

end Json

/-! ## §2 Events -/

/-- The event of its four fields, of which the last two may be missing. -/
def Event.ofFields? (source kind : Json) (checked extra : Option Json) : Option Event := do
  return {
    source := ← source.asString?
    kind := ← kind.asKind?
    checked := ← (checked.getD .null).asOptional?
    extra := ← (extra.getD (.object [])).asTexts? }

/-- The event that a JSON value describes. -/
def Event.ofJson? : Json → Option Event
  | .object members => do
    ofFields? (← Json.member? members "source") (← Json.member? members "name")
      (Json.member? members "checked") (Json.member? members "extra")
  | .array (source :: kind :: rest) =>
    if rest.length ≤ 2 then ofFields? source kind rest[0]? rest[1]? else none
  | _ => none

/-- The JSON value of an event. -/
def Event.toJson (event : Event) : Json :=
  let extra := event.extra.entries.map fun e => (e.1, Json.string e.2)
  .object <|
    [("source", .string event.source), ("name", .string event.kind.name)] ++
    (event.checked.toList.map fun checked => ("checked", .string checked)) ++
    (if extra.isEmpty then [] else [("extra", .object extra)])

/-! ## §3 Command lines -/

/-- The line of its five words. -/
def Line.ofFields? (node method arg1 arg2 arg3 : Json) : Option Line := do
  return ⟨← node.asString?, ← method.asOptional?, ← arg1.asOptional?, ← arg2.asOptional?,
    ← arg3.asOptional?⟩

/-- The line that a JSON value describes. -/
def Line.ofJson? : Json → Option Line
  | .object members => do
    let word (name : String) : Json := (Json.member? members name).getD .null
    ofFields? (← Json.member? members "node_id") (word "method_name") (word "arg1")
      (word "arg2") (word "arg3")
  | .array [node, method, arg1, arg2, arg3] => ofFields? node method arg1 arg2 arg3
  | _ => none

/-- The JSON value of a line. -/
def Line.toJson (line : Line) : Json :=
  .object [("node_id", .string line.node), ("method_name", .ofOptional line.method),
    ("arg1", .ofOptional line.arg1), ("arg2", .ofOptional line.arg2),
    ("arg3", .ofOptional line.arg3)]

end RemoteUi.Wire
