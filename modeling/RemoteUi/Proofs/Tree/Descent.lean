import RemoteUi.Proofs.Tree.Edits

/-!
# Trees that come from an older one

In the course of a pass new nodes come into a tree and find their places, and old nodes may be taken
from theirs.  A tree *descends* from an older one if this is all that happened: the old nodes are
what they were, none of them has moved, and no id has come to mean another old node.

* §1 the relation, and what it says about attachment and look-ups;
* §2 edits that lead to a descendant;
* §3 trees whose root has no children.
-/

namespace RemoteUi

open RemoteUi.Wire

namespace Tree

/-! ## §1 Descent -/

/-- `tree` has come from `start` by new nodes, places for them and removals. -/
structure Descends (start tree : Tree) : Prop where
  anchored : tree.Anchored
  size : start.slots.size ≤ tree.slots.size
  kind? : ∀ node < start.slots.size, tree.kind? node = start.kind? node
  text? : ∀ node < start.slots.size, tree.text? node = start.text? node
  /-- An old node is where it was, or it was taken away. -/
  parent? : ∀ node < start.slots.size,
    tree.parent? node = start.parent? node ∨ tree.parent? node = none
  ids : ∀ id, ∀ node < start.slots.size,
    tree.ids.get? id = some node → start.ids.get? id = some node

variable {start tree tree' : Tree} {node parent : Handle} {id : NodeId}

/-- Among nodes that none leads out of, taking some from their places attaches none. -/
theorem isAttached_of_older {bound : Nat} (ha' : tree'.Anchored) (ha : tree.Anchored)
    (hparent : ∀ n < bound, tree'.parent? n = tree.parent? n ∨ tree'.parent? n = none)
    (hclosed : ∀ n < bound, ∀ p, tree.parent? n = some p → p < bound)
    (hnode : node < bound) (hatt : tree'.isAttached node) : tree.isAttached node := by
  induction node using ha'.acyclic.induction with
  | _ node ih =>
    cases hp : tree'.parent? node with
    | none =>
      rw [ha'.eq_root_of_isAttached hp hatt]
      exact ha.isAttached_root
    | some parent =>
      -- A node that has a parent was not taken away, so it had this parent before.
      have hsame : tree.parent? node = some parent := by
        rcases hparent node hnode with heq | hnone
        · exact heq ▸ hp
        · rw [hnone] at hp
          cases hp
      have hup : tree.isAttached parent :=
        ih parent hp (hclosed node hnode parent hsame) ((ha'.isAttached_iff_of_parent? hp).mp hatt)
      exact (ha.isAttached_iff_of_parent? hsame).mpr hup

namespace Descends

theorem refl (h : start.Anchored) : Descends start start where
  anchored := h
  size := Nat.le_refl _
  kind? _ _ := rfl
  text? _ _ := rfl
  parent? _ _ := .inl rfl
  ids _ _ _ hget := hget

/-- The parent of an old node is an old node. -/
theorem parent_lt (h : Descends start tree) (hstart : start.WellFormed)
    (hnode : node < start.slots.size) (hp : tree.parent? node = some parent) :
    parent < start.slots.size := by
  rcases h.parent? node hnode with heq | hnone
  · exact hstart.parent_lt (heq ▸ hp)
  · rw [hnone] at hp
    cases hp

/-- **An old node that is attached was attached before.** -/
theorem isAttached (h : Descends start tree) (hstart : start.Anchored)
    (hnode : node < start.slots.size) (hatt : tree.isAttached node) : start.isAttached node :=
  isAttached_of_older h.anchored hstart h.parent?
    (fun _ _ _ hp => hstart.toWellFormed.parent_lt hp) hnode hatt

/-- **An old node that is found under an id was found under it before.** -/
theorem lookup? (h : Descends start tree) (hstart : start.Anchored)
    (hnode : node < start.slots.size) (hl : tree.lookup? id = some node) :
    start.lookup? id = some node := by
  obtain ⟨hget, hatt⟩ := lookup?_eq_some_iff.mp hl
  exact lookup?_eq_some_iff.mpr ⟨h.ids id node hnode hget, h.isAttached hstart hnode hatt⟩

theorem id?_eq (h : Descends start tree) (hnode : node < start.slots.size) :
    tree.id? node = start.id? node := by
  rw [Tree.id?_eq, Tree.id?_eq, h.kind? node hnode]

theorem trans (h : Descends start tree) (h' : Descends tree tree') : Descends start tree' where
  anchored := h'.anchored
  size := Nat.le_trans h.size h'.size
  kind? n hn := (h'.kind? n (Nat.lt_of_lt_of_le hn h.size)).trans (h.kind? n hn)
  text? n hn := (h'.text? n (Nat.lt_of_lt_of_le hn h.size)).trans (h.text? n hn)
  parent? n hn := by
    rcases h'.parent? n (Nat.lt_of_lt_of_le hn h.size) with heq | hnone
    · rw [heq]
      exact h.parent? n hn
    · exact .inr hnone
  ids id n hn hget := h.ids id n hn (h'.ids id n (Nat.lt_of_lt_of_le hn h.size) hget)

end Descends

/-! ## §2 Edits -/

theorem SameShape.descends (h : tree.SameShape tree') (ha : tree.Anchored) :
    Descends tree tree' where
  anchored := h.anchored ha
  size := Nat.le_of_eq h.size.symm
  kind? n _ := h.kind? n
  text? n _ := h.text? n
  parent? n _ := .inl (h.parent? n)
  ids id n _ hget := by rwa [h.ids] at hget

namespace Anchored

theorem descends_withElement (h : tree.Anchored) (vocabulary : Vocabulary) (tag : String)
    (id : NodeId) : Descends tree (tree.withElement vocabulary tag id) where
  anchored := h.withElement vocabulary tag id
  size := by simp
  kind? n hn := by rw [kind?_withElement, if_neg (Nat.ne_of_lt hn)]
  text? n _ := text?_withElement ..
  parent? n _ := .inl (parent?_withElement ..)
  ids id' n hn hget := by
    rw [ids_withElement, Dict.get?_insert] at hget
    split at hget
    · -- The new id means the new node.
      cases hget
      exact absurd hn (Nat.lt_irrefl _)
    · exact hget

theorem descends_push_text (h : tree.Anchored) (content : String) :
    Descends tree (tree.push (.text content)) where
  anchored := h.push_text content
  size := by simp
  kind? n hn := by rw [kind?_push, if_neg (Nat.ne_of_lt hn)]
  text? n hn := by rw [text?_push, if_neg (Nat.ne_of_lt hn)]
  parent? n _ := .inl (parent?_push ..)
  ids _ _ _ hget := hget

theorem descends_detach (h : tree.Anchored) (node : Handle) :
    Descends tree (tree.detach node) where
  anchored := h.detach node
  size := by simp
  kind? n _ := kind?_detach ..
  text? n _ := text?_detach ..
  parent? n _ := by
    rw [parent?_detach]
    split
    · exact .inr rfl
    · exact .inl rfl
  ids _ _ _ hget := by simpa using hget

end Anchored

/-- A node that has no place yet and may be given one. -/
structure Loose (tree : Tree) (node : Handle) : Prop where
  lt : node < tree.slots.size
  ne_root : node ≠ root
  parent? : tree.parent? node = none

/-- A loose node is not attached. -/
theorem Loose.not_isAttached (h : tree.Loose node) (ha : tree.Anchored) :
    ¬ tree.isAttached node :=
  fun hatt => h.ne_root (ha.eq_root_of_isAttached h.parent? hatt)

/-- A place where a node can be put: below an element that is not below the node. -/
structure Open (tree : Tree) (parent node : Handle) : Prop where
  element : (tree.element? parent).isSome
  cycle : ¬ tree.Upward parent node

theorem Open.lt (h : tree.Open parent node) : parent < tree.slots.size :=
  lt_of_isSome_element? h.element

/-- **A new node may be put into an open place.** -/
theorem Descends.attachLast (h : Descends start tree) (hnew : start.slots.size ≤ node)
    (hloose : tree.Loose node) (hopen : tree.Open parent node) :
    Descends start (tree.attachLast parent node) where
  anchored := h.anchored.attachLast hloose.lt hloose.ne_root hloose.parent? hopen.element hopen.cycle
  size := by simpa using h.size
  kind? n hn := by rw [kind?_attachLast, h.kind? n hn]
  text? n hn := by rw [text?_attachLast, h.text? n hn]
  parent? n hn := by
    rw [parent?_attachLast _ _ _ hloose.lt, if_neg (Nat.ne_of_lt (Nat.lt_of_lt_of_le hn hnew))]
    exact h.parent? n hn
  ids id n hn hget := h.ids id n hn (by simpa using hget)

/-! ## §3 Bare roots -/

/-- Below a root without children nothing is attached. -/
theorem Anchored.eq_root_of_bare (h : tree.Anchored) (hbare : tree.children root = [])
    (hatt : tree.isAttached node) : node = root := by
  rcases (h.isAttached_iff.mp hatt).cases_tail with heq | ⟨child, -, hp⟩
  · exact heq.symm
  · -- The way up would come to the root by one of its children.
    have hmem := (h.mem_children_iff root child).mpr hp
    rw [hbare] at hmem
    cases hmem

/-- Below a root without children nothing is found. -/
theorem Anchored.lookup?_of_bare (h : tree.Anchored) (hbare : tree.children root = [])
    (id : NodeId) : tree.lookup? id = none := by
  cases hl : tree.lookup? id with
  | none => rfl
  | some node =>
    obtain ⟨hid, hatt⟩ := h.of_lookup? hl
    exact absurd (h.eq_root_of_bare hbare hatt) (h.ne_root_of_id? hid)

end Tree

end RemoteUi
