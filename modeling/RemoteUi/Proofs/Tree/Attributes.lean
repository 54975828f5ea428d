import RemoteUi.Proofs.Tree.Edits
import RemoteUi.Tree.Interaction

/-!
# Attributes after an edit

Which attributes an edit of one element changes: setting an attribute changes that one and no other,
and the selection of an entry by the user changes none.

* §1 elements after an edit;
* §2 setting an attribute;
* §3 the selections of the user.
-/

namespace RemoteUi.Tree

open RemoteUi.Wire

variable {tree tree' : Tree} {node : Handle}

/-! ## §1 Elements -/

/-- Only the element that is edited becomes another one. -/
theorem element?_modifyElement {f : Element → Element}
    (h : modifyElement node f tree = .ok () tree') (other : Handle) :
    tree'.element? other =
      if node = other then (tree.element? other).map f else tree.element? other := by
  rw [modifyElement_eq] at h
  split at h
  · cases h
  · next e he =>
    cases h
    rw [element?_eq, getElem?_modifySlot]
    by_cases hn : node = other
    · subst hn
      rw [if_pos rfl, if_pos rfl, he]
      rw [element?_eq] at he
      obtain ⟨slot, hslot, -⟩ := Option.bind_eq_some_iff.mp he
      rw [hslot]
      rfl
    · rw [if_neg hn, if_neg hn, element?_eq]

/-- An element can always be edited. -/
theorem exists_modifyElement (f : Element → Element) (h : (tree.element? node).isSome) :
    ∃ tree', modifyElement node f tree = .ok () tree' := by
  obtain ⟨e, he⟩ := Option.isSome_iff_exists.mp h
  exact ⟨_, by rw [modifyElement_eq, he]⟩

/-- Only an element is edited. -/
theorem exists_element?_of_modifyElement {f : Element → Element}
    (h : modifyElement node f tree = .ok () tree') : ∃ e, tree.element? node = some e := by
  rw [modifyElement_eq] at h
  cases he : tree.element? node with
  | none => simp [he] at h
  | some e => exact ⟨e, rfl⟩

theorem selections_modifyElement {f : Element → Element}
    (h : modifyElement node f tree = .ok () tree') : tree'.selections = tree.selections := by
  rw [modifyElement_eq] at h
  split at h
  · cases h
  · cases h
    rfl

/-! ## §2 Setting an attribute -/

/-- Setting an attribute changes this attribute and no other. -/
theorem attribute?_setAttribute {key value : String}
    (h : setAttribute node key value tree = .ok () tree') (other : Handle) (k : String) :
    tree'.attribute? other k =
      if node = other ∧ key = k then some value else tree.attribute? other k := by
  have helement := element?_modifyElement h other
  unfold attribute?
  rw [helement]
  by_cases hn : node = other
  · subst hn
    obtain ⟨e, he⟩ := exists_element?_of_modifyElement h
    by_cases hk : key = k <;> simp [he, hk, Dict.get?_insert]
  · simp [hn]

/-- The tree after an attempt to set an attribute. -/
def afterSetAttribute (tree : Tree) (node : Handle) (key value : String) : Tree :=
  match setAttribute node key value tree with
  | .ok _ tree => tree
  | .error _ tree => tree

/-- An attempt to set an attribute keeps the shape. -/
theorem sameShape_afterSetAttribute (tree : Tree) (node : Handle) (key value : String) :
    tree.SameShape (tree.afterSetAttribute node key value) := by
  unfold afterSetAttribute
  cases h : setAttribute node key value tree with
  | ok u t => exact sameShape_setAttribute h
  | error e t =>
    obtain rfl := atomic_setAttribute node key value _ _ _ h
    exact .refl _

/-- An attempt to set an attribute changes no attribute with another key. -/
theorem attribute?_afterSetAttribute_of_ne {key k : String} (hk : key ≠ k) (tree : Tree)
    (node : Handle) (value : String) (other : Handle) :
    (tree.afterSetAttribute node key value).attribute? other k = tree.attribute? other k := by
  unfold afterSetAttribute
  cases h : setAttribute node key value tree with
  | ok u t =>
    rw [attribute?_setAttribute h, if_neg (fun hboth => hk hboth.2)]
  | error e t =>
    obtain rfl := atomic_setAttribute node key value _ _ _ h
    rfl

/-! ## §3 Selections of the user -/

/-- An element with the entry at an index selected. -/
def selecting (index : Int) (e : Element) : Element :=
  { e with properties := e.properties.insert selectedIndexKey (String.ofList (Text.writeInt index)) }

/-- The selection of an entry by the user is an edit of an element, or it changes nothing. -/
theorem userSelect_cases (tree : Tree) (node : Handle) (index : Int) :
    (tree.userSelect node index).2 = tree ∨
      modifyElement node (selecting index) tree =
        .ok () (tree.userSelect node index).2 := by
  rw [modifyElement_eq]
  unfold userSelect
  cases tree.element? node with
  | none => exact .inl rfl
  | some e => exact .inr rfl

theorem sameShape_userSelect (tree : Tree) (node : Handle) (index : Int) :
    tree.SameShape (tree.userSelect node index).2 := by
  rcases tree.userSelect_cases node index with h | h
  · rw [h]
    exact .refl tree
  · exact sameShape_modifyElement (fun _ => by rfl) h

/-- The user's selections show in properties only. -/
theorem attribute?_userSelect (tree : Tree) (node : Handle) (index : Int) (other : Handle)
    (key : String) :
    (tree.userSelect node index).2.attribute? other key = tree.attribute? other key := by
  rcases tree.userSelect_cases node index with h | h
  · rw [h]
  · unfold attribute?
    rw [element?_modifyElement h]
    split
    · cases tree.element? other <;> rfl
    · rfl

end RemoteUi.Tree
