import RemoteUi.Dict
import RemoteUi.Text.Search
import RemoteUi.Wire.Event

/-!
# The tree of a window

The client holds a window as a tree of elements and texts.

* §1 elements, texts and what may be wrong with an edit;
* §2 the tree as a store of slots, one per node ever created, addressed by handles.  Each slot knows
  its parent and its children; a node without a parent is detached, unless it is the root;
* §3 the way from a node up to the top, attachment, and finding elements by id.
-/

namespace RemoteUi

open RemoteUi.Text RemoteUi.Wire

/-! ## §1 Nodes -/

/-- The vocabulary that the tag of an element belongs to. -/
inductive Vocabulary where
  | xul
  | html
  deriving DecidableEq, Repr

/-- How the tags of the markup vocabulary start on the wire. -/
def htmlMark : List Char := "html_".toList

/-- The vocabulary and the local name of a tag as it is written on the wire. -/
def Vocabulary.resolve (tag : String) : Vocabulary × String :=
  match afterMark? htmlMark tag.toList with
  | some name => (.html, String.ofList name)
  | none => (.xul, tag)

/-- Where the selections of an element are forwarded to. -/
inductive Listener where
  /-- To the window's own handler of selections. -/
  | root
  /-- To the handler of picks, under the id of an element. -/
  | pick (target : NodeId)
  deriving DecidableEq, Repr

/-- The address of a node in a tree. -/
abbrev Handle := Nat

/-- An element: a node with a tag. -/
structure Element where
  vocabulary : Vocabulary
  tag : String
  /-- The id it was created under; only the root has none. -/
  id : Option NodeId
  attributes : Dict String := ∅
  properties : Dict String := ∅
  listeners : List Listener := []
  /-- The operations invoked on the element, the oldest first. -/
  invoked : List String := []
  deriving DecidableEq, Repr

/-- What a node is. -/
inductive Content where
  | element (element : Element)
  | text (content : String)
  deriving DecidableEq, Repr

/-- Why a tree refuses an edit. -/
inductive TreeError where
  | invalidTag (tag : String)
  | unknownOperation (operation : String)
  /-- The new parent is a text. -/
  | notAContainer
  /-- The node to remove has no parent. -/
  | detached
  | notAChild
  /-- The new parent is the node itself or one of its descendants. -/
  | cycle
  | notAnElement
  deriving DecidableEq, Repr

/-- The words for a refused edit. -/
def TreeError.message : TreeError → String
  | .invalidTag tag => "invalid tag name '" ++ tag ++ "'"
  | .unknownOperation operation => "unknown operation '" ++ operation ++ "'"
  | .notAContainer => "node cannot hold children"
  | .detached => "node has no parent to detach from"
  | .notAChild => "node is not a child of the given parent"
  | .cycle => "appending would create a cycle"
  | .notAnElement => "text nodes carry no attributes"

/-! ## §2 The store -/

/-- The place of a node in the store. -/
structure Slot where
  parent : Option Handle := none
  children : List Handle := []
  content : Content
  deriving DecidableEq, Repr

/-- A tree with all its nodes, attached or not. -/
structure Tree where
  slots : Array Slot
  /-- The element created last under each id. -/
  ids : Dict Handle
  /-- The elements whose selection was changed and reported, the oldest first. -/
  selections : List Handle
  deriving DecidableEq, Repr

namespace Tree

/-- The handle of the root. -/
def root : Handle := 0

/-- The tree that holds only its root. -/
def new : Tree where
  slots := #[{ content := .element { vocabulary := .xul, tag := "window", id := none } }]
  ids := ∅
  selections := []

instance : Inhabited Tree := ⟨new⟩

/-- The parent of a node. -/
def parent? (tree : Tree) (node : Handle) : Option Handle :=
  (tree.slots[node]?).bind (·.parent)

/-- The children of a node, in order. -/
def children (tree : Tree) (node : Handle) : List Handle :=
  match tree.slots[node]? with
  | some slot => slot.children
  | none => []

/-- The element at a handle, unless it is a text. -/
def element? (tree : Tree) (node : Handle) : Option Element :=
  match tree.slots[node]? with
  | some ⟨_, _, .element e⟩ => some e
  | _ => none

/-- The text at a handle, unless it is an element. -/
def text? (tree : Tree) (node : Handle) : Option String :=
  match tree.slots[node]? with
  | some ⟨_, _, .text s⟩ => some s
  | _ => none

/-- The id of an element. -/
def id? (tree : Tree) (node : Handle) : Option NodeId := (tree.element? node).bind (·.id)

/-- The local tag of an element. -/
def tag? (tree : Tree) (node : Handle) : Option String := (tree.element? node).map (·.tag)

/-- The vocabulary of an element. -/
def vocabulary? (tree : Tree) (node : Handle) : Option Vocabulary :=
  (tree.element? node).map (·.vocabulary)

/-- All attributes of an element. -/
def attributes? (tree : Tree) (node : Handle) : Option (Dict String) :=
  (tree.element? node).map (·.attributes)

/-- The value of an attribute. -/
def attribute? (tree : Tree) (node : Handle) (key : String) : Option String :=
  (tree.element? node).bind (·.attributes.get? key)

/-- The value of a property; one that was never set shows the attribute of the same name. -/
def property? (tree : Tree) (node : Handle) (key : String) : Option String :=
  (tree.element? node).bind fun e => (e.properties.get? key).or (e.attributes.get? key)

/-- The listeners of a node, in the order in which they were added. -/
def listeners (tree : Tree) (node : Handle) : List Listener :=
  ((tree.element? node).map (·.listeners)).getD []

/-- The operations invoked on a node, the oldest first. -/
def invocations (tree : Tree) (node : Handle) : List String :=
  ((tree.element? node).map (·.invoked)).getD []

/-- The texts directly below a node, joined. -/
def textContent (tree : Tree) (node : Handle) : String :=
  String.join ((tree.children node).filterMap tree.text?)

/-! ## §3 Up the tree -/

/-- The first `limit` nodes on the way from a node to the top, the node itself included. -/
def lineageUpTo (tree : Tree) : (limit : Nat) → (node : Handle) → List Handle
  | 0, _ => []
  | limit + 1, node =>
    node ::
      match tree.parent? node with
      | some parent => lineageUpTo tree limit parent
      | none => []

/-- The node and its ancestors, up to the top.  There are no more of them than slots. -/
def lineage (tree : Tree) (node : Handle) : List Handle :=
  tree.lineageUpTo tree.slots.size node

/-- The ancestors of a node, the nearest first. -/
def ancestors (tree : Tree) (node : Handle) : List Handle := (tree.lineage node).tail

/-- Whether the way up from a node ends at the root. -/
def isAttached (tree : Tree) (node : Handle) : Bool := (tree.lineage node).getLast? = some root

/-- The element created last under an id, provided it is attached. -/
def lookup? (tree : Tree) (id : NodeId) : Option Handle :=
  (tree.ids.get? id).filter tree.isAttached

end Tree

end RemoteUi
