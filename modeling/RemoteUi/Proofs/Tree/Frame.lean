import RemoteUi.Tree.Edit

/-!
# What an edit leaves as it was

An edit of a tree adds a slot or changes slots that are there.  Each change is described by the
views of the tree after it (parent, children, element, text), so that no later argument opens the
store.

* §1 the views as functions of a slot;
* §2 a new slot;
* §3 a changed slot;
* §4 another place: taking a node from its parent and putting it below one.
-/

namespace RemoteUi

open RemoteUi.Wire

/-! ## §1 Views of a slot -/

/-- The element that a content is, unless it is a text. -/
def Content.element? : Content → Option Element
  | .element e => some e
  | .text _ => none

/-- The text that a content is, unless it is an element. -/
def Content.text? : Content → Option String
  | .element _ => none
  | .text s => some s

namespace Tree

variable (tree : Tree) (node other : Handle)

theorem children_eq : tree.children node = ((tree.slots[node]?).map (·.children)).getD [] := by
  unfold children
  cases tree.slots[node]? <;> rfl

theorem element?_eq : tree.element? node = (tree.slots[node]?).bind (·.content.element?) := by
  unfold element?
  rcases tree.slots[node]? with _ | ⟨_, _, _ | _⟩ <;> rfl

theorem text?_eq : tree.text? node = (tree.slots[node]?).bind (·.content.text?) := by
  unfold text?
  rcases tree.slots[node]? with _ | ⟨_, _, _ | _⟩ <;> rfl

/-- A node with a parent has a slot. -/
theorem lt_of_parent? {tree : Tree} {node parent : Handle}
    (h : tree.parent? node = some parent) : node < tree.slots.size := by
  apply Nat.lt_of_not_le
  intro hge
  simp [parent?, Array.getElem?_eq_none hge] at h

/-- An element has a slot. -/
theorem lt_of_element? {tree : Tree} {node : Handle} {e : Element}
    (h : tree.element? node = some e) : node < tree.slots.size := by
  apply Nat.lt_of_not_le
  intro hge
  simp [element?_eq, Array.getElem?_eq_none hge] at h

theorem lt_of_isSome_element? {tree : Tree} {node : Handle} (h : (tree.element? node).isSome) :
    node < tree.slots.size := by
  obtain ⟨e, he⟩ := Option.isSome_iff_exists.mp h
  exact lt_of_element? he

/-- A text has a slot. -/
theorem lt_of_text? {tree : Tree} {node : Handle} {s : String}
    (h : tree.text? node = some s) : node < tree.slots.size := by
  apply Nat.lt_of_not_le
  intro hge
  simp [text?_eq, Array.getElem?_eq_none hge] at h

/-- A node without a slot has no children. -/
theorem children_eq_nil_of_le {tree : Tree} {node : Handle} (h : tree.slots.size ≤ node) :
    tree.children node = [] := by
  simp [children_eq, Array.getElem?_eq_none h]

/-- A node without a slot has no parent. -/
theorem parent?_eq_none_of_le {tree : Tree} {node : Handle} (h : tree.slots.size ≤ node) :
    tree.parent? node = none := by
  simp [parent?, Array.getElem?_eq_none h]

/-! ## §2 A new slot -/

variable (content : Content)

@[simp] theorem size_push : (tree.push content).slots.size = tree.slots.size + 1 := by
  simp [push]

@[simp] theorem ids_push : (tree.push content).ids = tree.ids := rfl

@[simp] theorem parent?_push : (tree.push content).parent? node = tree.parent? node := by
  by_cases h : node = tree.slots.size <;> simp [push, parent?, Array.getElem?_push, h]

@[simp] theorem children_push : (tree.push content).children node = tree.children node := by
  by_cases h : node = tree.slots.size <;> simp [push, children_eq, Array.getElem?_push, h]

theorem element?_push : (tree.push content).element? node =
    if node = tree.slots.size then content.element? else tree.element? node := by
  by_cases h : node = tree.slots.size <;> simp [push, element?_eq, Array.getElem?_push, h]

theorem text?_push : (tree.push content).text? node =
    if node = tree.slots.size then content.text? else tree.text? node := by
  by_cases h : node = tree.slots.size <;> simp [push, text?_eq, Array.getElem?_push, h]

/-! ## §3 A changed slot -/

variable {tree node other} {f : Slot → Slot}

theorem getElem?_modifySlot : (tree.modifySlot node f).slots[other]? =
    if node = other then (tree.slots[other]?).map f else tree.slots[other]? := by
  simp [modifySlot, Array.getElem?_modify]

@[simp] theorem size_modifySlot : (tree.modifySlot node f).slots.size = tree.slots.size := by
  simp [modifySlot]

@[simp] theorem ids_modifySlot : (tree.modifySlot node f).ids = tree.ids := rfl

/-- A change that keeps the parent of the slot keeps all parents. -/
theorem parent?_modifySlot_of_eq (h : ∀ s, (f s).parent = s.parent) :
    (tree.modifySlot node f).parent? other = tree.parent? other := by
  by_cases hn : node = other <;> cases hs : tree.slots[other]? <;>
    simp [parent?, getElem?_modifySlot, hn, hs, h]

/-- A change that keeps the children of the slot keeps all children. -/
theorem children_modifySlot_of_eq (h : ∀ s, (f s).children = s.children) :
    (tree.modifySlot node f).children other = tree.children other := by
  by_cases hn : node = other <;> cases hs : tree.slots[other]? <;>
    simp [children_eq, getElem?_modifySlot, hn, hs, h]

/-- A change that keeps the content of the slot keeps all elements. -/
theorem element?_modifySlot_of_eq (h : ∀ s, (f s).content = s.content) :
    (tree.modifySlot node f).element? other = tree.element? other := by
  by_cases hn : node = other <;> cases hs : tree.slots[other]? <;>
    simp [element?_eq, getElem?_modifySlot, hn, hs, h]

/-- A change that keeps the content of the slot keeps all texts. -/
theorem text?_modifySlot_of_eq (h : ∀ s, (f s).content = s.content) :
    (tree.modifySlot node f).text? other = tree.text? other := by
  by_cases hn : node = other <;> cases hs : tree.slots[other]? <;>
    simp [text?_eq, getElem?_modifySlot, hn, hs, h]

/-- A change that gives the slot a parent gives this parent to its node and to no other one. -/
theorem parent?_modifySlot {parent : Option Handle} (hnode : node < tree.slots.size)
    (h : ∀ s, (f s).parent = parent) : (tree.modifySlot node f).parent? other =
      if other = node then parent else tree.parent? other := by
  by_cases hn : other = node
  · subst hn
    simp [parent?, getElem?_modifySlot, Array.getElem?_eq_getElem hnode, h]
  · simp [parent?, getElem?_modifySlot, hn, Ne.symm hn]

/-- A change of the children of the slot changes the children of its node and of no other one. -/
theorem children_modifySlot {g : List Handle → List Handle}
    (hnode : node < tree.slots.size ∨ g [] = []) (h : ∀ s, (f s).children = g s.children) :
    (tree.modifySlot node f).children other =
      if other = node then g (tree.children other) else tree.children other := by
  by_cases hn : other = node
  · subst hn
    rcases Nat.lt_or_ge other tree.slots.size with hlt | hge
    · simp [children_eq, getElem?_modifySlot, Array.getElem?_eq_getElem hlt, h]
    · have hg : g [] = [] := hnode.resolve_left (Nat.not_lt.mpr hge)
      simp [children_eq, getElem?_modifySlot, Array.getElem?_eq_none hge, hg]
  · simp [children_eq, getElem?_modifySlot, hn, Ne.symm hn]

/-! ## §4 Another place -/

variable (tree node other)

@[simp] theorem size_detach : (tree.detach node).slots.size = tree.slots.size := by
  unfold detach; split <;> simp

@[simp] theorem ids_detach : (tree.detach node).ids = tree.ids := by
  unfold detach; split <;> rfl

/-- Detaching takes the parent of the node and of no other one. -/
theorem parent?_detach : (tree.detach node).parent? other =
    if other = node then none else tree.parent? other := by
  unfold detach
  split
  · next h => by_cases ho : other = node <;> simp [ho, h]
  · next parent h =>
    rw [parent?_modifySlot_of_eq, parent?_modifySlot (lt_of_parent? h)]
    all_goals exact fun _ => rfl

/-- Detaching takes the node out of the children of its parent and changes no other children. -/
theorem children_detach : (tree.detach node).children other =
    if tree.parent? node = some other then (tree.children other).filter (· ≠ node)
    else tree.children other := by
  unfold detach
  split
  · next h => simp [h]
  · next parent h =>
    -- The parent need not have a slot: without one there is nothing to be filtered.
    rw [children_modifySlot (g := (·.filter (· ≠ node))) (.inr rfl) fun _ => rfl,
      children_modifySlot_of_eq]
    · simp [h, eq_comm]
    · exact fun _ => rfl

@[simp] theorem element?_detach : (tree.detach node).element? other = tree.element? other := by
  unfold detach
  split
  · rfl
  · rw [element?_modifySlot_of_eq, element?_modifySlot_of_eq] <;> exact fun _ => rfl

@[simp] theorem text?_detach : (tree.detach node).text? other = tree.text? other := by
  unfold detach
  split
  · rfl
  · rw [text?_modifySlot_of_eq, text?_modifySlot_of_eq] <;> exact fun _ => rfl

/-- A node without a parent is detached already. -/
theorem detach_of_parent?_eq_none {tree : Tree} {node : Handle} (h : tree.parent? node = none) :
    tree.detach node = tree := by
  simp [detach, h]

variable (parent : Handle)

@[simp] theorem size_attachLast : (tree.attachLast parent node).slots.size = tree.slots.size := by
  simp [attachLast]

@[simp] theorem ids_attachLast : (tree.attachLast parent node).ids = tree.ids := rfl

/-- A node put below a parent has this parent, and no other node's parent changes. -/
theorem parent?_attachLast {node : Handle} (hnode : node < tree.slots.size) :
    (tree.attachLast parent node).parent? other =
      if other = node then some parent else tree.parent? other := by
  unfold attachLast
  -- The second change, to the slot of the parent, is of children only.
  rw [parent?_modifySlot_of_eq, parent?_modifySlot hnode]
  all_goals exact fun _ => rfl

/-- No other node's parent changes, even if the node put below the parent has no slot. -/
theorem parent?_attachLast_of_ne {node other : Handle} (h : other ≠ node) :
    (tree.attachLast parent node).parent? other = tree.parent? other := by
  unfold attachLast
  rw [parent?_modifySlot_of_eq]
  · simp [parent?, getElem?_modifySlot, h.symm]
  · exact fun _ => rfl

/-- A node put below a parent is its last child, and no other children change. -/
theorem children_attachLast {parent : Handle} (hparent : parent < tree.slots.size) :
    (tree.attachLast parent node).children other =
      if other = parent then tree.children other ++ [node] else tree.children other := by
  unfold attachLast
  rw [children_modifySlot (g := (· ++ [node])) (.inl (by simpa using hparent)) fun _ => rfl,
    children_modifySlot_of_eq]
  exact fun _ => rfl

@[simp] theorem element?_attachLast :
    (tree.attachLast parent node).element? other = tree.element? other := by
  unfold attachLast
  rw [element?_modifySlot_of_eq, element?_modifySlot_of_eq] <;> exact fun _ => rfl

@[simp] theorem text?_attachLast :
    (tree.attachLast parent node).text? other = tree.text? other := by
  unfold attachLast
  rw [text?_modifySlot_of_eq, text?_modifySlot_of_eq] <;> exact fun _ => rfl

end Tree

end RemoteUi
