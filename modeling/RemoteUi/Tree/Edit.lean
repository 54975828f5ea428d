import RemoteUi.Tree.Basic

/-!
# Editing a tree

The edits that a tree offers.  An edit answers an error or a result and leaves a tree behind; an
edit that answers an error leaves the tree as it was.

* §1 creating nodes;
* §2 placing them below one another and taking them away;
* §3 attributes, properties, operations and listeners;
* §4 selections, as the program and as the user make them.
-/

namespace RemoteUi

open RemoteUi.Wire

/-- An edit of a tree with a result. -/
abbrev Edit (α : Type) := EStateM TreeError Tree α

namespace Tree

/-! ## §1 Creating -/

/-- Whether a text may be the local tag of an element. -/
def isTag (tag : String) : Bool :=
  match tag.toList with
  | [] => false
  | c :: rest => c.isAlpha && rest.all fun c => c.isAlphanum || c = '-' || c = '_' || c = ':'

/-- The tree with one more node, without parent and children. -/
def push (tree : Tree) (content : Content) : Tree :=
  { tree with slots := tree.slots.push { content } }

/-- Creates an element under an id, detached.  From now on the id means this element. -/
def createElement (vocabulary : Vocabulary) (tag : String) (id : NodeId) : Edit Handle := do
  if isTag tag then
    let tree ← get
    let node := tree.slots.size
    let tree := tree.push (.element { vocabulary, tag, id := some id })
    set { tree with ids := tree.ids.insert id node }
    return node
  else throw (.invalidTag tag)

/-- Creates a text, detached. -/
def createText (content : String) : Edit Handle := do
  let tree ← get
  set (tree.push (.text content))
  return tree.slots.size

/-! ## §2 Placing -/

/-- The tree with the slot of a node changed. -/
def modifySlot (tree : Tree) (node : Handle) (f : Slot → Slot) : Tree :=
  { tree with slots := tree.slots.modify node f }

/-- The tree with a node taken from its parent, if it has one. -/
def detach (tree : Tree) (node : Handle) : Tree :=
  match tree.parent? node with
  | none => tree
  | some parent =>
    (tree.modifySlot node fun slot => { slot with parent := none }).modifySlot parent
      fun slot => { slot with children := slot.children.filter (· ≠ node) }

/-- The tree with a detached node put last below a parent. -/
def attachLast (tree : Tree) (parent node : Handle) : Tree :=
  (tree.modifySlot node fun slot => { slot with parent := some parent }).modifySlot parent
    fun slot => { slot with children := slot.children ++ [node] }

/-- Puts a node last below a parent and takes it from where it was.  A text holds no children, and
no node goes below itself. -/
def append (parent node : Handle) : Edit Unit := do
  let tree ← get
  if (tree.element? parent).isNone then throw .notAContainer
  else if (tree.lineage parent).contains node then throw .cycle
  else set ((tree.detach node).attachLast parent node)

/-- Takes a node from its parent. -/
def remove (parent node : Handle) : Edit Unit := do
  let tree ← get
  if tree.parent? node = some parent then set (tree.detach node)
  else throw .notAChild

/-! ## §3 Elements -/

/-- Changes an element; a text is no element. -/
def modifyElement (node : Handle) (f : Element → Element) : Edit Unit := do
  let tree ← get
  match tree.element? node with
  | none => throw .notAnElement
  | some e => set (tree.modifySlot node fun slot => { slot with content := .element (f e) })

/-- Sets an attribute. -/
def setAttribute (node : Handle) (key value : String) : Edit Unit :=
  modifyElement node fun e => { e with attributes := e.attributes.insert key value }

/-- Removes an attribute, whether it is set or not. -/
def removeAttribute (node : Handle) (key : String) : Edit Unit :=
  modifyElement node fun e => { e with attributes := e.attributes.erase key }

/-- The operations that elements offer. -/
def operations : List String := ["sizeToContent", "focus", "blur"]

/-- Invokes an operation on an element. -/
def invoke (node : Handle) (operation : String) : Edit Unit :=
  if operations.contains operation then
    modifyElement node fun e => { e with invoked := e.invoked ++ [operation] }
  else throw (.unknownOperation operation)

/-- Adds a listener to an element. -/
def addListener (node : Handle) (listener : Listener) : Edit Unit :=
  modifyElement node fun e => { e with listeners := e.listeners ++ [listener] }

/-! ## §4 Selections -/

/-- The property that holds the position of the selected entry. -/
def selectedIndexKey : String := "selectedIndex"

/-- The attribute that keeps changes of the selection from being reported. -/
def suppressKey : String := "suppressonselect"

/-- Whether an element keeps quiet about changes of its selection. -/
def isSuppressed (tree : Tree) (node : Handle) : Bool :=
  tree.attribute? node suppressKey = some "true"

/-- Sets a property.  A change of the selected entry is reported, unless the element keeps quiet
about it. -/
def setProperty (node : Handle) (key value : String) : Edit Unit := do
  let quiet := (← get).isSuppressed node
  modifyElement node fun e => { e with properties := e.properties.insert key value }
  if key = selectedIndexKey ∧ !quiet then
    modify fun tree => { tree with selections := tree.selections ++ [node] }

/-- Hands over the reported changes of selections; they are reported once. -/
def takeSelections (tree : Tree) : List Handle × Tree :=
  (tree.selections, { tree with selections := [] })

end Tree

end RemoteUi
