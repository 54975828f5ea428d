import RemoteUi.Proofs.Tree.Attributes
import RemoteUi.Proofs.Tree.Descent
import RemoteUi.Proofs.Tree.Walks

/-!
# Additions to a tree

Two kinds of changes add to what is there each time they are made: an operation is noted with its
element, and a text comes below its element after what is there already.

* §1 operations, which no snapshot shows;
* §2 texts.
-/

namespace RemoteUi

/-! ## §1 Operations -/

/-- What a snapshot shows of an element. -/
def Element.seen (e : Element) : Element := { e with listeners := [], invoked := [] }

namespace Tree

variable {tree tree' : Tree} {node : Handle}

theorem snapshotOver_congr
    (helement : (tree'.element? node).map Element.seen = (tree.element? node).map Element.seen)
    (htext : tree'.text? node = tree.text? node) (below : List Snapshot) :
    tree'.snapshotOver node below = tree.snapshotOver node below := by
  unfold snapshotOver
  rw [htext]
  cases h : tree.element? node with
  | none =>
    rw [h, Option.map_none, Option.map_eq_none_iff] at helement
    rw [helement]
  | some e =>
    rw [h, Option.map_some] at helement
    obtain ⟨e', he', hseen⟩ := Option.map_eq_some_iff.mp helement
    cases e
    cases e'
    cases hseen
    rw [he']

/-- **Trees of one shape that show the same of each element have the same snapshots.** -/
theorem SameShape.snapshot (h : tree.SameShape tree')
    (hseen : ∀ n, (tree'.element? n).map Element.seen = (tree.element? n).map Element.seen)
    (node : Handle) : tree'.snapshot node = tree.snapshot node := by
  have hto : ∀ depth n, tree'.snapshotTo depth n = tree.snapshotTo depth n := by
    intro depth
    induction depth with
    | zero =>
      intro n
      rw [snapshotTo_zero, snapshotTo_zero, snapshotOver_congr (hseen n) (h.text? n)]
    | succ depth ih =>
      intro n
      rw [snapshotTo_succ, snapshotTo_succ, h.children, funext ih,
        snapshotOver_congr (hseen n) (h.text? n)]
  rw [Tree.snapshot, Tree.snapshot, h.size, hto]

/-- What has become of a tree in which an operation was invoked on an element. -/
structure Invoked (tree tree' : Tree) (node : Handle) (operation : String) : Prop where
  invocations : tree'.invocations node = tree.invocations node ++ [operation]
  others : ∀ n, n ≠ node → tree'.element? n = tree.element? n
  shape : tree.SameShape tree'
  snapshot : ∀ n, tree'.snapshot n = tree.snapshot n
  selections : tree'.selections = tree.selections

/-- **To invoke an operation is to note it with the element**, and nothing else is to be seen. -/
theorem invoked_of_invoke {operation : String}
    (h : invoke node operation tree = .ok () tree') : Invoked tree tree' node operation := by
  have hshape := sameShape_invoke h
  unfold invoke at h
  split at h
  · have helement := element?_modifyElement h
    obtain ⟨e, he⟩ := exists_element?_of_modifyElement h
    refine ⟨?_, fun n hn => ?_, hshape, hshape.snapshot fun n => ?_, ?_⟩
    · simp [invocations, helement, he]
    · rw [helement, if_neg (Ne.symm hn)]
    · rw [helement]
      split
      · cases tree.element? n <;> rfl
      · rfl
    · exact selections_modifyElement h
  · cases h

/-! ## §2 Texts -/

/-- What has become of a tree in which a new text was put below a node. -/
structure TextAdded (tree tree' : Tree) (node : Handle) (content : String) : Prop where
  /-- One node has come, and it is the text. -/
  size : tree'.slots.size = tree.slots.size + 1
  text : tree'.text? tree.slots.size = some content
  parent : tree'.parent? tree.slots.size = some node
  children : tree'.children node = tree.children node ++ [tree.slots.size]
  textContent : tree'.textContent node = tree.textContent node ++ content
  /-- Everything else is as it was. -/
  others : ∀ n, n ≠ node → tree'.children n = tree.children n
  elements : ∀ n, tree'.element? n = tree.element? n
  texts : ∀ n, n ≠ tree.slots.size → tree'.text? n = tree.text? n
  parents : ∀ n, n ≠ tree.slots.size → tree'.parent? n = tree.parent? n
  ids : tree'.ids = tree.ids
  selections : tree'.selections = tree.selections

/-- A node that is yet to come is neither an element nor a child of one. -/
theorem WellFormed.textAdded (h : tree.WellFormed) (hnode : (tree.element? node).isSome)
    (content : String) :
    TextAdded tree ((tree.push (.text content)).attachLast node tree.slots.size) node content := by
  have hlt : node < tree.slots.size := lt_of_isSome_element? hnode
  have hnew : tree.slots.size < (tree.push (.text content)).slots.size := by simp
  have hparent : node < (tree.push (.text content)).slots.size := Nat.lt_trans hlt hnew
  have htext : ∀ n, ((tree.push (.text content)).attachLast node tree.slots.size).text? n =
      if n = tree.slots.size then some content else tree.text? n := by
    intro n
    rw [text?_attachLast, text?_push]
    rfl
  have hchildren : ∀ n, ((tree.push (.text content)).attachLast node tree.slots.size).children n =
      if n = node then tree.children n ++ [tree.slots.size] else tree.children n := by
    intro n
    rw [children_attachLast _ _ _ hparent, children_push]
  have hup : ∀ n, ((tree.push (.text content)).attachLast node tree.slots.size).parent? n =
      if n = tree.slots.size then some node else tree.parent? n := by
    intro n
    rw [parent?_attachLast _ _ _ hnew, parent?_push]
  -- The children that were there are older nodes, so their texts are what they were.
  have hold : ∀ child ∈ tree.children node, child ≠ tree.slots.size := by
    rintro child hchild rfl
    exact Nat.lt_irrefl _ (lt_of_parent? ((h.mem_children_iff node _).mp hchild))
  refine { size := by simp, text := by rw [htext, if_pos rfl], parent := by rw [hup, if_pos rfl],
           children := by rw [hchildren, if_pos rfl], textContent := ?textContent,
           others := fun n hn => by rw [hchildren, if_neg hn], elements := ?elements,
           texts := fun n hn => by rw [htext, if_neg hn],
           parents := fun n hn => by rw [hup, if_neg hn], ids := rfl, selections := rfl }
  case textContent =>
    have hsame : (tree.children node).filterMap
        ((tree.push (.text content)).attachLast node tree.slots.size).text? =
          (tree.children node).filterMap tree.text? :=
      List.filterMap_congr fun child hchild => by rw [htext, if_neg (hold child hchild)]
    rw [Tree.textContent, hchildren, if_pos rfl, List.filterMap_append, hsame, String.join_append,
      Tree.textContent]
    simp [htext]
  case elements =>
    intro n
    rw [element?_attachLast, element?_push]
    split
    · next hn =>
      -- There was no element where the text is now.
      cases he : tree.element? n with
      | none => rfl
      | some e => exact absurd (hn ▸ lt_of_element? he) (Nat.lt_irrefl _)
    · rfl

end Tree

end RemoteUi
