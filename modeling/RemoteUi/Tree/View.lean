import RemoteUi.Text.Quoted
import RemoteUi.Tree.Basic

/-!
# Views of a tree

Two ways to look at what is below a node: a *snapshot*, which is a value of its own, and an
*outline*, which is a text with a line for each node.  Both follow the children from the node
down, and no way down is longer than the number of slots.
-/

namespace RemoteUi

open RemoteUi.Text RemoteUi.Wire

/-! ## §1 Snapshots -/

/-- What there is to see of a node and the nodes below it.  Listeners and invoked operations are
not to be seen. -/
inductive Snapshot where
  | text (content : String)
  | element (id : Option NodeId) (tag : String) (vocabulary : Vocabulary)
      (attributes properties : Dict String) (children : List Snapshot)

instance : Inhabited Snapshot := ⟨.text ""⟩

namespace Tree

/-- The snapshot of a node with the nodes at most `depth` levels below it. -/
def snapshotTo (tree : Tree) (depth : Nat) (node : Handle) : Snapshot :=
  match tree.slots[node]? with
  | some ⟨_, children, .element e⟩ =>
    .element e.id e.tag e.vocabulary e.attributes e.properties <|
      match depth with
      | 0 => []
      | depth + 1 => children.map (snapshotTo tree depth)
  | some ⟨_, _, .text content⟩ => .text content
  | none => .text ""

/-- The snapshot of a node with everything below it. -/
def snapshot (tree : Tree) (node : Handle) : Snapshot := tree.snapshotTo tree.slots.size node

/-! ## §2 Document order -/

/-- A node and the nodes at most `depth` levels below it in document order, each with its level;
the node itself is on level `level`. -/
def preorderTo (tree : Tree) (level : Nat) : (depth : Nat) → (node : Handle) → List (Nat × Handle)
  | 0, node => [(level, node)]
  | depth + 1, node =>
    (level, node) :: (tree.children node).flatMap (preorderTo tree (level + 1) depth)

/-- A node and everything below it in document order, each node with its level. -/
def preorder (tree : Tree) (node : Handle) : List (Nat × Handle) :=
  tree.preorderTo 0 tree.slots.size node

/-- The attached nodes in document order. -/
def documentOrder (tree : Tree) : List Handle := (tree.preorder root).map (·.2)

/-! ## §3 Outlines -/

/-- The settings of an element for display, each key after `mark`. -/
def settingsText (mark : String) (settings : Dict String) : String :=
  String.join (settings.entries.map fun e => " " ++ mark ++ e.1 ++ "=" ++ quote e.2)

/-- An element for display: tag, id, attributes and properties. -/
def elementText (e : Element) : String :=
  let vocabulary := match e.vocabulary with
    | .xul => ""
    | .html => "html:"
  let id := match e.id with
    | some id => "#" ++ id
    | none => ""
  vocabulary ++ e.tag ++ id ++ settingsText "" e.attributes ++ settingsText "." e.properties

/-- A node for display. -/
def nodeText (tree : Tree) (node : Handle) : String :=
  match tree.element? node, tree.text? node with
  | some e, _ => elementText e
  | none, some content => quote content
  | none, none => ""

/-- The attached tree, a line for each node, indented by its level. -/
def outline (tree : Tree) : String :=
  "\n".intercalate <| (tree.preorder root).map fun (level, node) =>
    String.ofList (List.replicate (2 * level) ' ') ++ tree.nodeText node

end Tree

end RemoteUi
