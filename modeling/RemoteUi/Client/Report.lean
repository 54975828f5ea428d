import RemoteUi.Text.Blank
import RemoteUi.Tree.Interaction

/-!
# Reports

How an interaction becomes the event that is reported to the server.  Most interactions count for
the element they happen on.  The activation of a menu item counts for the menu's owner: it is the
selection of an entry in a button or in a menu list, and a plain click in a menu.  An interaction
with an element that has no id, and a selection without a selected entry, are not reported.
-/

namespace RemoteUi

open RemoteUi.Text RemoteUi.Wire

/-! ## §1 Owners of menu items -/

/-- The tags of elements that own the menu items below them. -/
def ownerTags : List String := ["menu", "button", "menulist"]

/-- The position of the last occurrence of a node among its siblings. -/
def lastPosition? (siblings : List Handle) (node : Handle) : Option Nat :=
  (siblings.reverse.idxOf? node).map fun i => siblings.length - 1 - i

namespace Tree

/-- The nearest ancestor that owns a menu item. -/
def owner? (tree : Tree) (node : Handle) : Option Handle :=
  (tree.ancestors node).find? fun ancestor =>
    match tree.tag? ancestor with
    | some tag => ownerTags.contains tag
    | none => false

/-- The position of a node among the children of its parent; -1 if it has no parent. -/
def position (tree : Tree) (node : Handle) : Int :=
  match (tree.parent? node).bind fun parent => lastPosition? (tree.children parent) node with
  | some i => i
  | none => -1

/-- The selected index of an element as a number; -1 if it is missing or no number. -/
def selectedIndex (tree : Tree) (node : Handle) : Int :=
  match (tree.property? node selectedIndexKey).bind fun raw => readSigned64? (trim raw.toList) with
  | some index => index
  | none => -1

/-! ## §2 Events -/

/-- The event of a given kind on an element, with the value of its check mark. -/
def eventOn? (tree : Tree) (node : Handle) (kind : EventKind) (extra : List (String × String)) :
    Option Event :=
  (tree.id? node).map fun source =>
    { source, kind, checked := tree.attribute? node "checked", extra := Dict.ofList extra }

/-- The click on an element. -/
def clickOn? (tree : Tree) (node : Handle) : Option Event := tree.eventOn? node .click []

/-- The selection of the entry at a position, provided there is one. -/
def selectionOn? (tree : Tree) (node : Handle) (index : Int) : Option Event :=
  if index = -1 then none
  else tree.eventOn? node .select [(selectedIndexKey, String.ofList (writeInt index))]

/-- What the activation of a menu item counts as. -/
def activationOf? (tree : Tree) (item : Handle) : Option Event :=
  match tree.owner? item with
  | none => tree.clickOn? item
  | some owner =>
    if tree.tag? owner = some "menu" then tree.clickOn? item
    else if tree.tag? owner = some "button" then tree.selectionOn? owner (tree.position item)
    else tree.selectionOn? owner (tree.selectedIndex owner)

/-- The event that an interaction is reported as, if it is reported at all. -/
def report? (tree : Tree) : Interaction → Option Event
  | .command target =>
    if tree.tag? target = some "menuitem" then tree.activationOf? target
    else tree.clickOn? target
  | .select target => tree.selectionOn? target (tree.selectedIndex target)
  | .pick id =>
    (tree.lookup? id).bind fun target =>
      tree.eventOn? target .pick [("color", (tree.property? target "color").getD "")]
  | .change target =>
    tree.eventOn? target .change [("value", (tree.property? target "value").getD "")]

end Tree

end RemoteUi
