import RemoteUi.Text.JsonString
import RemoteUi.Text.Numeral
import RemoteUi.Tree.Edit

/-!
# Hosts

A *host* is a tree that keeps a journal of the edits asked of it and that may refuse some of them.
An edit is written into the journal before anything else happens to it; a refused one does not
reach the tree.

* §1 the kinds of requests a host may refuse;
* §2 the entries of the journal;
* §3 the host and its edits;
* §4 how an entry reads.
-/

namespace RemoteUi

open RemoteUi.Text RemoteUi.Wire

/-! ## §1 What may be refused -/

/-- The requests that a host may refuse. -/
inductive Operation where
  | createElement
  | append
  | remove
  | setAttribute
  | removeAttribute
  | setProperty
  | invoke
  | addListener
  /-- Asking for a parent; a host that refuses it says that there is none. -/
  | readParent
  deriving DecidableEq, Repr

/-- The name of a request, as it appears in the error of a host that refuses it. -/
def Operation.name : Operation → String
  | .createElement => "create_element"
  | .append => "append_child"
  | .remove => "remove_child"
  | .setAttribute => "set_attribute"
  | .removeAttribute => "remove_attribute"
  | .setProperty => "set_property"
  | .invoke => "invoke"
  | .addListener => "add_listener"
  | .readParent => "orphan"

/-! ## §2 The journal -/

/-- An edit asked of a host. -/
inductive Call where
  | createElement (vocabulary : Vocabulary) (tag : String) (id : NodeId)
  | createText (content : String)
  /-- The children that the node had at that moment are noted with it. -/
  | append (parent node : Handle) (carried : List Handle)
  | remove (parent node : Handle)
  | setAttribute (node : Handle) (key value : String)
  | removeAttribute (node : Handle) (key : String)
  | setProperty (node : Handle) (key value : String)
  | invoke (node : Handle) (operation : String)
  | addListener (node : Handle) (listener : Listener)
  deriving DecidableEq, Repr

/-- The kind of request that an edit is; texts can always be created. -/
def Call.operation? : Call → Option Operation
  | .createElement .. => some .createElement
  | .createText _ => none
  | .append .. => some .append
  | .remove .. => some .remove
  | .setAttribute .. => some .setAttribute
  | .removeAttribute .. => some .removeAttribute
  | .setProperty .. => some .setProperty
  | .invoke .. => some .invoke
  | .addListener .. => some .addListener

/-! ## §3 Hosts -/

/-- A tree with a journal, and what it refuses. -/
structure Host where
  tree : Tree
  /-- The kinds of requests that the host refuses throughout. -/
  refuses : Operation → Bool := fun _ => false
  /-- What the host objects to the latest of the edits asked of it, if it objects to that one. -/
  objects : List Call → Option TreeError := fun _ => none
  /-- The edits asked of the host, the oldest first. -/
  journal : List Call := []

/-- An edit of a host with a result. -/
abbrev HostEdit (α : Type) := EStateM TreeError Host α

namespace Host

/-- The parent of a node, as the host tells it. -/
def parent? (host : Host) (node : Handle) : Option Handle :=
  if host.refuses .readParent then none else host.tree.parent? node

/-- Writes an edit into the journal. -/
def note (call : Call) : HostEdit Unit :=
  modify fun host => { host with journal := host.journal ++ [call] }

/-- Passes an edit on to the tree. -/
def forward {α : Type} (edit : Edit α) : HostEdit α := fun host =>
  match edit host.tree with
  | .ok a tree => .ok a { host with tree }
  | .error e tree => .error e { host with tree }

/-- Notes an edit and passes it on, unless the host refuses edits of its kind. -/
def perform {α : Type} (call : Call) (edit : Edit α) : HostEdit α := do
  note call
  match call.operation? with
  | none => forward edit
  | some operation =>
    let host ← get
    if host.refuses operation then throw (.unknownOperation operation.name)
    else
      match host.objects host.journal with
      | some error => throw error
      | none => forward edit

/-- Creates an element. -/
def createElement (vocabulary : Vocabulary) (tag : String) (id : NodeId) : HostEdit Handle :=
  perform (.createElement vocabulary tag id) (Tree.createElement vocabulary tag id)

/-- Creates a text. -/
def createText (content : String) : HostEdit Handle :=
  perform (.createText content) (Tree.createText content)

/-- Puts a node last below a parent. -/
def append (parent node : Handle) : HostEdit Unit := do
  let carried := (← get).tree.children node
  perform (.append parent node carried) (Tree.append parent node)

/-- Takes a node from its parent. -/
def remove (parent node : Handle) : HostEdit Unit :=
  perform (.remove parent node) (Tree.remove parent node)

/-- Sets an attribute. -/
def setAttribute (node : Handle) (key value : String) : HostEdit Unit :=
  perform (.setAttribute node key value) (Tree.setAttribute node key value)

/-- Removes an attribute. -/
def removeAttribute (node : Handle) (key : String) : HostEdit Unit :=
  perform (.removeAttribute node key) (Tree.removeAttribute node key)

/-- Sets a property. -/
def setProperty (node : Handle) (key value : String) : HostEdit Unit :=
  perform (.setProperty node key value) (Tree.setProperty node key value)

/-- Invokes an operation. -/
def invoke (node : Handle) (operation : String) : HostEdit Unit :=
  perform (.invoke node operation) (Tree.invoke node operation)

/-- Adds a listener. -/
def addListener (node : Handle) (listener : Listener) : HostEdit Unit :=
  perform (.addListener node listener) (Tree.addListener node listener)

end Host

/-! ## §4 Reading the journal -/

/-- The name of a node in a journal: its id, if it has one. -/
def Tree.nodeName (tree : Tree) (node : Handle) : String :=
  if node = root then "ROOT" else (tree.id? node).getD "#text"

/-- A listener as it reads in a journal. -/
def Listener.display : Listener → String
  | .root => "\"select\""
  | .pick target => "\x7b\"pick\":" ++ jsonString target ++ "\x7d"

/-- An edit as it reads in a journal, with the names that `tree` has for the nodes. -/
def Call.display (tree : Tree) : Call → String
  | .createElement .xul tag id => "create " ++ id ++ " " ++ tag
  | .createElement .html tag id => "create " ++ id ++ " html:" ++ tag
  | .createText content => "text " ++ content
  | .append parent node carried =>
    "append " ++ tree.nodeName node ++ " -> " ++ tree.nodeName parent ++
      " (" ++ String.ofList (writeNat carried.length) ++ " children)"
  | .remove parent node => "remove " ++ tree.nodeName node ++ " from " ++ tree.nodeName parent
  | .setAttribute node key value => "attr " ++ tree.nodeName node ++ "." ++ key ++ "=" ++ value
  | .removeAttribute node key => "unset " ++ tree.nodeName node ++ "." ++ key
  | .setProperty node key value => "prop " ++ tree.nodeName node ++ "." ++ key ++ "=" ++ value
  | .invoke node operation => "invoke " ++ tree.nodeName node ++ "." ++ operation
  | .addListener node listener => "listen " ++ tree.nodeName node ++ " " ++ listener.display

end RemoteUi
