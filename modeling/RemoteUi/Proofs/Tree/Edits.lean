import RemoteUi.Proofs.Tree.Ancestry

/-!
# What an edit does

Each edit of a tree has one equation: when it answers an error, and which tree it leaves.  From the
equations: an edit that answers an error leaves the tree as it was, and an edit that succeeds leaves
a well-formed and anchored tree.

* §1 trees of one shape, which differ only in what elements carry besides id, tag and vocabulary;
* §2 the equations of the edits;
* §3 edits that change nothing of the shape;
* §4 well-formed and anchored trees after an edit.
-/

namespace RemoteUi

open RemoteUi.Wire

/-- What begins by reading the state begins with the state that it reads. -/
theorem get_bind_apply {ε σ α : Type} (f : σ → EStateM ε σ α) (state : σ) :
    (get >>= f) state = f state state := rfl

/-! ## §1 Shape -/

/-- What of an element never changes: its id, its vocabulary and its tag. -/
def Element.kind (e : Element) : Option NodeId × Vocabulary × String := (e.id, e.vocabulary, e.tag)

namespace Tree

/-- The id, the vocabulary and the tag of an element. -/
def kind? (tree : Tree) (node : Handle) : Option (Option NodeId × Vocabulary × String) :=
  (tree.element? node).map Element.kind

variable {tree tree' : Tree} {node other parent : Handle}

theorem id?_eq (tree : Tree) (node : Handle) : tree.id? node = (tree.kind? node).bind (·.1) := by
  unfold id? kind?
  cases tree.element? node <;> rfl

theorem tag?_eq (tree : Tree) (node : Handle) :
    tree.tag? node = (tree.kind? node).map (·.2.2) := by
  unfold tag? kind?
  cases tree.element? node <;> rfl

theorem isSome_element? (tree : Tree) (node : Handle) :
    (tree.element? node).isSome = (tree.kind? node).isSome := by
  simp [kind?]

theorem lt_of_kind? {kind : Option NodeId × Vocabulary × String}
    (h : tree.kind? node = some kind) : node < tree.slots.size := by
  obtain ⟨e, he, -⟩ := Option.map_eq_some_iff.mp h
  exact lt_of_element? he

/-- Two trees have the same nodes, of the same kinds and in the same places. -/
structure SameShape (tree tree' : Tree) : Prop where
  size : tree'.slots.size = tree.slots.size
  ids : tree'.ids = tree.ids
  parent? : ∀ node, tree'.parent? node = tree.parent? node
  children : ∀ node, tree'.children node = tree.children node
  kind? : ∀ node, tree'.kind? node = tree.kind? node
  text? : ∀ node, tree'.text? node = tree.text? node

theorem lineageUpTo_congr (h : ∀ node, tree'.parent? node = tree.parent? node) (limit : Nat)
    (node : Handle) : tree'.lineageUpTo limit node = tree.lineageUpTo limit node := by
  induction limit generalizing node with
  | zero => rfl
  | succ limit ih =>
    rw [lineageUpTo, lineageUpTo, h]
    cases tree.parent? node with
    | none => rfl
    | some parent => exact congrArg _ (ih parent)

namespace SameShape

theorem refl (tree : Tree) : tree.SameShape tree :=
  ⟨rfl, rfl, fun _ => rfl, fun _ => rfl, fun _ => rfl, fun _ => rfl⟩

theorem trans {tree'' : Tree} (h : tree.SameShape tree') (h' : tree'.SameShape tree'') :
    tree.SameShape tree'' where
  size := h'.size.trans h.size
  ids := h'.ids.trans h.ids
  parent? node := (h'.parent? node).trans (h.parent? node)
  children node := (h'.children node).trans (h.children node)
  kind? node := (h'.kind? node).trans (h.kind? node)
  text? node := (h'.text? node).trans (h.text? node)

theorem id? (h : tree.SameShape tree') (node : Handle) : tree'.id? node = tree.id? node := by
  rw [id?_eq, id?_eq, h.kind?]

theorem isAttached (h : tree.SameShape tree') (node : Handle) :
    tree'.isAttached node = tree.isAttached node := by
  unfold Tree.isAttached lineage
  rw [h.size, lineageUpTo_congr h.parent?]

theorem lookup? (h : tree.SameShape tree') (id : NodeId) : tree'.lookup? id = tree.lookup? id := by
  unfold Tree.lookup?
  rw [h.ids, funext h.isAttached]

theorem wellFormed (h : tree.SameShape tree') (hwf : tree.WellFormed) : tree'.WellFormed where
  root_element := by rw [isSome_element?, h.kind?, ← isSome_element?]; exact hwf.root_element
  mem_children_iff parent child := by
    rw [h.children, h.parent?]; exact hwf.mem_children_iff parent child
  nodup_children node := by rw [h.children]; exact hwf.nodup_children node
  parent_element child parent hp := by
    rw [h.parent?] at hp
    rw [isSome_element?, h.kind?, ← isSome_element?]
    exact hwf.parent_element child parent hp
  acyclic := by simpa only [h.parent?] using hwf.acyclic

theorem anchored (h : tree.SameShape tree') (ha : tree.Anchored) : tree'.Anchored where
  toWellFormed := h.wellFormed ha.toWellFormed
  root_top := by rw [h.parent?]; exact ha.root_top
  root_id := by rw [h.id?]; exact ha.root_id
  ids id node hget := by
    rw [h.id?]
    exact ha.ids id node (by rw [← h.ids]; exact hget)

end SameShape

/-! ## §2 Equations -/

/-- The tree after an element was created. -/
def withElement (tree : Tree) (vocabulary : Vocabulary) (tag : String) (id : NodeId) : Tree :=
  { tree.push (.element { vocabulary, tag, id := some id }) with
    ids := tree.ids.insert id tree.slots.size }

theorem createElement_eq (vocabulary : Vocabulary) (tag : String) (id : NodeId) (tree : Tree) :
    createElement vocabulary tag id tree =
      if isTag tag then .ok tree.slots.size (tree.withElement vocabulary tag id)
      else .error (.invalidTag tag) tree := by
  unfold createElement
  split <;> rfl

theorem createText_eq (content : String) (tree : Tree) :
    createText content tree = .ok tree.slots.size (tree.push (.text content)) := rfl

theorem append_eq (parent node : Handle) (tree : Tree) : append parent node tree =
    if (tree.element? parent).isNone then .error .notAContainer tree
    else if (tree.lineage parent).contains node then .error .cycle tree
    else .ok () ((tree.detach node).attachLast parent node) := by
  simp only [append, get_bind_apply]
  split
  · rfl
  · split <;> rfl

theorem remove_eq (parent node : Handle) (tree : Tree) : remove parent node tree =
    if tree.parent? node = some parent then .ok () (tree.detach node)
    else .error .notAChild tree := by
  simp only [remove, get_bind_apply]
  split <;> rfl

theorem modifyElement_eq (node : Handle) (f : Element → Element) (tree : Tree) :
    modifyElement node f tree =
      match tree.element? node with
      | none => .error .notAnElement tree
      | some e =>
        .ok () (tree.modifySlot node fun slot => { slot with content := .element (f e) }) := by
  simp only [modifyElement, get_bind_apply]
  cases tree.element? node <;> rfl

theorem setProperty_eq (node : Handle) (key value : String) (tree : Tree) :
    setProperty node key value tree =
      match modifyElement node (fun e => { e with properties := e.properties.insert key value })
        tree with
      | .error e tree' => .error e tree'
      | .ok _ tree' =>
        .ok () (if key = selectedIndexKey ∧ !tree.isSuppressed node then
          { tree' with selections := tree'.selections ++ [node] } else tree') := by
  simp only [setProperty, get_bind_apply]
  simp only [bind, EStateM.bind]
  cases modifyElement node _ tree with
  | error e tree' => rfl
  | ok u tree' =>
    by_cases hreport : key = selectedIndexKey ∧ !tree.isSuppressed node
    · simp only [if_pos hreport]
      rfl
    · simp only [if_neg hreport]
      rfl

/-- An append that succeeds puts a node last below an element that is not below the node. -/
theorem eq_of_append {tree tree' : Tree} (h : append parent node tree = .ok () tree') :
    (tree.element? parent).isSome ∧ node ∉ tree.lineage parent ∧
      tree' = (tree.detach node).attachLast parent node := by
  rw [append_eq] at h
  split at h
  · cases h
  · next hparent =>
    split at h
    · cases h
    · next hcycle =>
      cases h
      exact ⟨Option.isSome_iff_ne_none.mpr (by simpa using hparent), by simpa using hcycle, rfl⟩

/-- The equation of an append, for a node that has no parent yet. -/
theorem append_ok {tree tree' : Tree} (hwf : tree.WellFormed) (hnode : tree.parent? node = none)
    (h : append parent node tree = .ok () tree') :
    (tree.element? parent).isSome ∧ ¬ tree.Upward parent node ∧
      tree' = tree.attachLast parent node := by
  obtain ⟨hparent, hcycle, rfl⟩ := eq_of_append h
  rw [hwf.mem_lineage_iff] at hcycle
  rw [detach_of_parent?_eq_none hnode]
  exact ⟨hparent, hcycle, rfl⟩

/-- An edit that answers an error leaves the tree as it was. -/
def Atomic {α : Type} (edit : Edit α) : Prop :=
  ∀ tree e tree', edit tree = .error e tree' → tree' = tree

theorem atomic_createElement (vocabulary : Vocabulary) (tag : String) (id : NodeId) :
    Atomic (createElement vocabulary tag id) := by
  intro tree e tree' h
  rw [createElement_eq] at h
  split at h <;> cases h
  rfl

theorem atomic_createText (content : String) : Atomic (createText content) := by
  intro tree e tree' h
  rw [createText_eq] at h
  cases h

theorem atomic_append (parent node : Handle) : Atomic (append parent node) := by
  intro tree e tree' h
  rw [append_eq] at h
  split at h
  · cases h; rfl
  · split at h <;> cases h
    rfl

theorem atomic_remove (parent node : Handle) : Atomic (remove parent node) := by
  intro tree e tree' h
  rw [remove_eq] at h
  split at h <;> cases h
  rfl

theorem atomic_modifyElement (node : Handle) (f : Element → Element) :
    Atomic (modifyElement node f) := by
  intro tree e tree' h
  rw [modifyElement_eq] at h
  split at h <;> cases h
  rfl

theorem atomic_setAttribute (node : Handle) (key value : String) :
    Atomic (setAttribute node key value) :=
  atomic_modifyElement _ _

theorem atomic_removeAttribute (node : Handle) (key : String) :
    Atomic (removeAttribute node key) :=
  atomic_modifyElement _ _

theorem atomic_invoke (node : Handle) (operation : String) : Atomic (invoke node operation) := by
  unfold invoke
  split
  · exact atomic_modifyElement _ _
  · intro tree e tree' h
    cases h
    rfl

theorem atomic_addListener (node : Handle) (listener : Listener) :
    Atomic (addListener node listener) :=
  atomic_modifyElement _ _

theorem atomic_setProperty (node : Handle) (key value : String) :
    Atomic (setProperty node key value) := by
  intro tree e tree' h
  rw [setProperty_eq] at h
  -- Only the change of the element can fail; the report of the selection cannot.
  split at h
  · next e' t hm =>
    cases h
    exact atomic_modifyElement _ _ _ _ _ hm
  · cases h

/-! ## §3 Edits that keep the shape -/

theorem sameShape_modifyElement {f : Element → Element} (hf : ∀ e, (f e).kind = e.kind)
    (h : modifyElement node f tree = .ok () tree') : tree.SameShape tree' := by
  rw [modifyElement_eq] at h
  split at h
  · cases h
  · next e he =>
    cases h
    -- The slot of the node keeps its parent and its children, and its element its kind.
    have hnode : node < tree.slots.size := lt_of_element? he
    obtain ⟨slot, hslot⟩ : ∃ slot, tree.slots[node]? = some slot :=
      ⟨_, Array.getElem?_eq_getElem hnode⟩
    have hcontent : slot.content = .element e := by
      rw [element?_eq, hslot] at he
      cases hc : slot.content <;> simp_all [Content.element?]
    refine { size := size_modifySlot, ids := rfl,
             parent? := fun n => parent?_modifySlot_of_eq fun _ => rfl,
             children := fun n => children_modifySlot_of_eq fun _ => rfl, kind? := ?kind?,
             text? := ?text? }
    case kind? =>
      intro n
      by_cases hn : node = n
      · subst hn
        simp [kind?, element?_eq, getElem?_modifySlot, hslot, hcontent, Content.element?, hf]
      · simp [kind?, element?_eq, getElem?_modifySlot, hn]
    case text? =>
      intro n
      by_cases hn : node = n
      · subst hn
        simp [text?_eq, getElem?_modifySlot, hslot, hcontent, Content.text?]
      · simp [text?_eq, getElem?_modifySlot, hn]

theorem sameShape_setAttribute {key value : String}
    (h : setAttribute node key value tree = .ok () tree') : tree.SameShape tree' :=
  sameShape_modifyElement (fun _ => by rfl) h

theorem sameShape_removeAttribute {key : String}
    (h : removeAttribute node key tree = .ok () tree') : tree.SameShape tree' :=
  sameShape_modifyElement (fun _ => by rfl) h

theorem sameShape_invoke {operation : String}
    (h : invoke node operation tree = .ok () tree') : tree.SameShape tree' := by
  unfold invoke at h
  split at h
  · exact sameShape_modifyElement (fun _ => by rfl) h
  · cases h

theorem sameShape_addListener {listener : Listener}
    (h : addListener node listener tree = .ok () tree') : tree.SameShape tree' :=
  sameShape_modifyElement (fun _ => by rfl) h

theorem sameShape_setProperty {key value : String}
    (h : setProperty node key value tree = .ok () tree') : tree.SameShape tree' := by
  rw [setProperty_eq] at h
  split at h
  · cases h
  · next u t hm =>
    have hshape : tree.SameShape t := sameShape_modifyElement (fun _ => by rfl) hm
    cases h
    -- A report of the selection is kept beside the nodes.
    split
    · exact hshape.trans ⟨rfl, rfl, fun _ => rfl, fun _ => rfl, fun _ => rfl, fun _ => rfl⟩
    · exact hshape

/-! ## §4 New nodes and new places -/

section Push

variable (tree : Tree) (content : Content) (vocabulary : Vocabulary) (tag : String) (id : NodeId)

theorem kind?_push : (tree.push content).kind? node =
    if node = tree.slots.size then content.element?.map Element.kind else tree.kind? node := by
  unfold kind?
  rw [element?_push]
  split <;> rfl

@[simp] theorem size_withElement :
    (tree.withElement vocabulary tag id).slots.size = tree.slots.size + 1 :=
  size_push ..

@[simp] theorem ids_withElement :
    (tree.withElement vocabulary tag id).ids = tree.ids.insert id tree.slots.size := rfl

@[simp] theorem parent?_withElement :
    (tree.withElement vocabulary tag id).parent? node = tree.parent? node :=
  parent?_push ..

@[simp] theorem children_withElement :
    (tree.withElement vocabulary tag id).children node = tree.children node :=
  children_push ..

theorem kind?_withElement : (tree.withElement vocabulary tag id).kind? node =
    if node = tree.slots.size then some (some id, vocabulary, tag) else tree.kind? node :=
  kind?_push ..

@[simp] theorem text?_withElement :
    (tree.withElement vocabulary tag id).text? node = tree.text? node := by
  have h := text?_push tree node (.element { vocabulary, tag, id := some id })
  by_cases hn : node = tree.slots.size
  · -- An element stands where no text was before.
    rw [if_pos hn] at h
    have hnone : tree.text? node = none := by
      cases ht : tree.text? node with
      | none => rfl
      | some s => exact absurd (hn ▸ lt_of_text? ht) (Nat.lt_irrefl _)
    exact h.trans hnone.symm
  · rw [if_neg hn] at h
    exact h

end Push

theorem WellFormed.push (h : tree.WellFormed) (content : Content) :
    (tree.push content).WellFormed where
  root_element := by
    rw [element?_push, if_neg (Nat.ne_of_lt h.root_lt)]
    exact h.root_element
  mem_children_iff p c := by simpa using h.mem_children_iff p c
  nodup_children n := by simpa using h.nodup_children n
  parent_element c p hp := by
    rw [parent?_push] at hp
    rw [element?_push, if_neg (Nat.ne_of_lt (h.parent_lt hp))]
    exact h.parent_element c p hp
  acyclic := by simpa only [parent?_push] using h.acyclic

/-- An older node has the id it had. -/
theorem id?_push (tree : Tree) (content : Content) (hn : node < tree.slots.size) :
    (tree.push content).id? node = tree.id? node := by
  rw [id?_eq, kind?_push, if_neg (Nat.ne_of_lt hn), ← id?_eq]

theorem Anchored.push_text (h : tree.Anchored) (content : String) :
    (tree.push (.text content)).Anchored where
  toWellFormed := h.toWellFormed.push _
  root_top := by rw [parent?_push]; exact h.root_top
  root_id := by rw [id?_push _ _ h.root_lt]; exact h.root_id
  ids id node hget := by
    have hid := h.ids id node hget
    rw [id?_push _ _ (lt_of_id? hid)]
    exact hid

theorem Anchored.withElement (h : tree.Anchored) (vocabulary : Vocabulary) (tag : String)
    (id : NodeId) : (tree.withElement vocabulary tag id).Anchored where
  toWellFormed :=
    have hwf := h.toWellFormed.push (.element { vocabulary, tag, id := some id })
    ⟨hwf.root_element, hwf.mem_children_iff, hwf.nodup_children, hwf.parent_element, hwf.acyclic⟩
  root_top := by rw [parent?_withElement]; exact h.root_top
  root_id := by
    rw [id?_eq, kind?_withElement, if_neg (Nat.ne_of_lt h.root_lt), ← id?_eq]
    exact h.root_id
  ids id' node hget := by
    rw [ids_withElement, Dict.get?_insert] at hget
    rw [id?_eq, kind?_withElement]
    split at hget
    · next hid =>
      cases hget
      simp [hid]
    · have hold := h.ids id' node hget
      rw [if_neg (Nat.ne_of_lt (lt_of_id? hold)), ← id?_eq]
      exact hold

section Place

theorem kind?_detach (tree : Tree) (node other : Handle) :
    (tree.detach node).kind? other = tree.kind? other := by
  simp [kind?]

theorem kind?_attachLast (tree : Tree) (parent node other : Handle) :
    (tree.attachLast parent node).kind? other = tree.kind? other := by
  simp [kind?]

/-- An append changes places only. -/
theorem kind?_of_append {tree tree' : Tree} (h : append parent node tree = .ok () tree')
    (other : Handle) : tree'.kind? other = tree.kind? other := by
  obtain ⟨-, -, rfl⟩ := eq_of_append h
  rw [kind?_attachLast, kind?_detach]

theorem size_of_append {tree tree' : Tree} (h : append parent node tree = .ok () tree') :
    tree'.slots.size = tree.slots.size := by
  obtain ⟨-, -, rfl⟩ := eq_of_append h
  rw [size_attachLast, size_detach]

theorem WellFormed.detach (h : tree.WellFormed) (node : Handle) : (tree.detach node).WellFormed where
  root_element := by rw [element?_detach]; exact h.root_element
  mem_children_iff p c := by
    rw [parent?_detach, children_detach]
    by_cases hc : c = node
    · -- The node itself has no parent now, and it is filtered out where it was a child.
      subst hc
      split
      · simp
      · next hp => simpa [h.mem_children_iff] using hp
    · split <;> simp [hc, h.mem_children_iff]
  nodup_children n := by
    rw [children_detach]
    split
    · exact (h.nodup_children n).filter _
    · exact h.nodup_children n
  parent_element c p hp := by
    rw [parent?_detach] at hp
    rw [element?_detach]
    split at hp
    · cases hp
    · exact h.parent_element c p hp
  acyclic := by
    refine Subrelation.wf (fun {p c} hp => ?_) h.acyclic
    rw [parent?_detach] at hp
    split at hp
    · cases hp
    · exact hp

/-- Below a node that is not under it, a detached node can be put without closing a circle. -/
theorem WellFormed.acyclic_attachLast (h : tree.WellFormed) (hnode : node < tree.slots.size)
    (hcycle : ¬ tree.Upward parent node) :
    WellFounded fun p c => (tree.attachLast parent node).parent? c = some p := by
  simp only [parent?_attachLast _ _ _ hnode]
  -- The ways up that do not come by the node are as before.
  have hold : ∀ c, ¬ tree.Upward c node →
      Acc (fun p c => (if c = node then some parent else tree.parent? c) = some p) c := by
    intro c
    induction c using h.acyclic.induction with
    | _ c ih =>
      intro hc
      apply Acc.intro
      intro p hp
      have hne : c ≠ node := by
        rintro rfl
        exact hc (.refl _)
      rw [if_neg hne] at hp
      exact ih p hp fun hup => hc (.head hp hup)
  -- The others go on at the new parent, once they have come by the node.
  refine ⟨fun c => ?_⟩
  induction c using h.acyclic.induction with
  | _ c ih =>
    apply Acc.intro
    intro p hp
    by_cases hc : c = node
    · rw [if_pos hc] at hp
      cases hp
      exact hold parent hcycle
    · rw [if_neg hc] at hp
      exact ih p hp

theorem WellFormed.attachLast (h : tree.WellFormed) (hnode : node < tree.slots.size)
    (hdetached : tree.parent? node = none) (hparent : (tree.element? parent).isSome)
    (hcycle : ¬ tree.Upward parent node) : (tree.attachLast parent node).WellFormed where
  root_element := by rw [element?_attachLast]; exact h.root_element
  mem_children_iff p c := by
    have hlt := lt_of_isSome_element? hparent
    rw [parent?_attachLast _ _ _ hnode, children_attachLast _ _ _ hlt]
    have hmem := h.mem_children_iff p c
    by_cases hc : c = node
    · subst hc
      by_cases hp : p = parent
      · simp [hp]
      · simp [hp, Ne.symm hp, hmem, hdetached]
    · by_cases hp : p = parent
      · subst hp; simp [hc, hmem]
      · simp [hc, hp, hmem]
  nodup_children n := by
    have hlt := lt_of_isSome_element? hparent
    rw [children_attachLast _ _ _ hlt]
    split
    · -- A node without a parent is no child yet.
      have hnot : node ∉ tree.children n := by
        rw [h.mem_children_iff, hdetached]
        simp
      rw [← List.concat_eq_append]
      exact (h.nodup_children n).concat hnot
    · exact h.nodup_children n
  parent_element c p hp := by
    rw [parent?_attachLast _ _ _ hnode] at hp
    rw [element?_attachLast]
    split at hp
    · cases hp; exact hparent
    · exact h.parent_element c p hp
  acyclic := h.acyclic_attachLast hnode hcycle

theorem Anchored.detach (h : tree.Anchored) (node : Handle) : (tree.detach node).Anchored where
  toWellFormed := h.toWellFormed.detach node
  root_top := by rw [parent?_detach, h.root_top, ite_self]
  root_id := by rw [id?_eq, kind?_detach, ← id?_eq]; exact h.root_id
  ids id n hget := by
    rw [id?_eq, kind?_detach, ← id?_eq]
    exact h.ids id n (by simpa using hget)

theorem Anchored.attachLast (h : tree.Anchored) (hnode : node < tree.slots.size)
    (hne : node ≠ root) (hdetached : tree.parent? node = none)
    (hparent : (tree.element? parent).isSome) (hcycle : ¬ tree.Upward parent node) :
    (tree.attachLast parent node).Anchored where
  toWellFormed := h.toWellFormed.attachLast hnode hdetached hparent hcycle
  root_top := by rw [parent?_attachLast _ _ _ hnode, if_neg hne.symm]; exact h.root_top
  root_id := by rw [id?_eq, kind?_attachLast, ← id?_eq]; exact h.root_id
  ids id n hget := by
    rw [id?_eq, kind?_attachLast, ← id?_eq]
    exact h.ids id n (by simpa using hget)

end Place

end Tree

end RemoteUi
