import RemoteUi.Text.Numeral
import RemoteUi.Tree.Edit

/-!
# Interactions

What a user does to a window, as the window reports it to the client.
-/

namespace RemoteUi

open RemoteUi.Text RemoteUi.Wire

/-- A user's interaction with a window. -/
inductive Interaction where
  /-- A click on an element or the activation of a menu item. -/
  | command (target : Handle)
  /-- The selection of an entry. -/
  | select (target : Handle)
  /-- The choice of a colour; the element is named by its id. -/
  | pick (target : NodeId)
  /-- The edit of a value. -/
  | change (target : Handle)
  deriving DecidableEq, Repr

/-- The interaction that a listener makes of a selection in the element it listens to. -/
def Listener.interaction (listener : Listener) (node : Handle) : Interaction :=
  match listener with
  | .root => .select node
  | .pick target => .pick target

/-- The user selects an entry of an element: its selected index changes, without a report, and each
of its listeners makes an interaction of it. -/
def Tree.userSelect (tree : Tree) (node : Handle) (index : Int) : List Interaction × Tree :=
  let update (e : Element) : Element :=
    { e with properties := e.properties.insert selectedIndexKey (String.ofList (writeInt index)) }
  let tree :=
    match tree.element? node with
    | none => tree
    | some e => tree.modifySlot node fun slot => { slot with content := .element (update e) }
  ((tree.listeners node).map (·.interaction node), tree)

end RemoteUi
