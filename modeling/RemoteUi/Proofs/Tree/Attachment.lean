import RemoteUi.Proofs.Tree.History

/-!
# What is attached

A node is attached if its way up ends at the root.  While the root is on top, these are the nodes
that one comes to from the root through children, and the nodes that are shown.  The root is a node
like any other, though: below a detached element it can be put like any detached node.  From then on
nothing is attached and nothing is found, while the same nodes are still shown.

* §1 how the root comes below a node;
* §2 what is attached, shown and found in a tree with a history;
* §3 a root that was put below a box.
-/

namespace RemoteUi

open RemoteUi.Wire

namespace Tree

/-! ## §1 The place of the root -/

/-- Whether a change put the root below a node. -/
def Made.sinksRoot (made : Made) : Bool :=
  match made.change, made.answer with
  | .append _ node, .ok _ => node = root
  | _, _ => false

variable {record : List Made} {tree tree' : Tree} {change : Change}

/-- A root without a parent gets one only if it is put below a node. -/
theorem Change.Effect.parent?_root {node? : Option Handle} (h : change.Effect tree node? tree')
    (hhandles : ∀ node ∈ change.handles, node < tree.slots.size)
    (hmade : (Made.mk change (.ok node?)).sinksRoot = false) (htop : tree.parent? root = none) :
    tree'.parent? root = none := by
  cases h with
  | element vocabulary tag id => rw [parent?_withElement, htop]
  | text content => rw [parent?_push, htop]
  | place parent node =>
    have hne : root ≠ node := by
      rintro rfl
      simp [Made.sinksRoot] at hmade
    have hnode : node < (tree.detach node).slots.size := by
      rw [size_detach]
      exact hhandles node (by simp [Change.handles])
    rw [parent?_attachLast _ _ _ hnode, if_neg hne, parent?_detach, if_neg hne, htop]
  | cut parent node => rw [parent?_detach, htop, ite_self]
  | quiet change hquiet hshape => rw [hshape.parent?, htop]

/-- **The root has no parent, unless it was put below a node.** -/
theorem History.parent?_root (h : History record tree)
    (hnever : ∀ made ∈ record, made.sinksRoot = false) : tree.parent? root = none := by
  induction h with
  | new => rfl
  | @step record tree h change hgiven ih =>
    obtain ⟨hearlier, hlast⟩ := List.forall_mem_append.mp hnever
    have htop := ih hearlier
    have hmade := hlast _ (List.mem_singleton_self _)
    rcases change.answer_cases tree with ⟨error, -, hafter⟩ | ⟨node?, hanswer, heffect⟩
    · rw [hafter, htop]
    · rw [hanswer] at hmade
      exact heffect.parent?_root (fun node hnode => (h.kept.given node).mp (hgiven node hnode))
        hmade htop

/-- **The root can be put below just those elements that one does not come to from it.** -/
theorem WellFormed.answer_append_root_eq_ok_iff (h : tree.WellFormed) (parent : Handle) :
    (Change.append parent root).answer tree = .ok none ↔
      (tree.element? parent).isSome ∧ ¬ tree.Downward root parent := by
  rw [h.answer_append_eq_ok_iff, h.downward_iff]

/-! ## §2 Attached nodes -/

/-- What is attached, shown and found in a tree with a history. -/
structure Attachment (record : List Made) (tree : Tree) : Prop where
  /-- The root is on top as long as it was not put below a node. -/
  top : (∀ made ∈ record, made.sinksRoot = false) → tree.parent? root = none
  /-- It can be put below just those elements that one does not come to from it. -/
  sinks : ∀ parent, (Change.append parent root).answer tree = .ok none ↔
    (tree.element? parent).isSome ∧ ¬ tree.Downward root parent
  attached : ∀ node, tree.isAttached node ↔ tree.parent? root = none ∧ tree.Downward root node
  /-- The outline has a line for each of these nodes. -/
  outlined : ∀ node, node ∈ tree.documentOrder ↔ tree.Downward root node
  /-- The snapshot of the root shows the same nodes. -/
  snapshot : (tree.snapshot root).parts = tree.documentOrder.map tree.snapshot
  found : ∀ id node, tree.lookup? id = some node ↔
    latest? record id = some node ∧ tree.parent? root = none ∧ tree.Downward root node

/-- **While the root is on top, attached are the nodes that one comes to from it**, which are the
nodes that are shown; of these the one created last under an id is found under it.  If the root is
not on top, nothing is attached, and nothing is found. -/
theorem History.attachment (h : History record tree) : Attachment record tree := by
  have hkept := h.kept
  have hwf := hkept.wellFormed
  have hattached : ∀ node, tree.isAttached node ↔
      tree.parent? root = none ∧ tree.Downward root node := by
    intro node
    rw [hwf.isAttached_iff, hwf.downward_iff, and_comm]
  refine ⟨h.parent?_root, hwf.answer_append_root_eq_ok_iff, hattached, fun node => ?_, ?_,
    fun id node => ?_⟩
  · exact hwf.mem_preorderFrom_iff 0
  · exact hwf.parts_snapshot 0 root
  · rw [lookup?_eq_some_iff, hkept.ids, hattached]

/-! ## §3 A root below a box -/

/-- A box below the root, and the root below another box. -/
def sunkRoot : List Change :=
  [.append 2 root, .createElement .xul "box" "E3", .append root 1,
    .createElement .xul "box" "E2"]

theorem History.attachment_sunkRoot : History (replay sunkRoot).1 (replay sunkRoot).2 ∧
    Attachment (replay sunkRoot).1 (replay sunkRoot).2 := by
  have h : History (replay sunkRoot).1 (replay sunkRoot).2 := history_replay (by decide +kernel)
  exact ⟨h, History.attachment h⟩

/-- The root has a parent and is not attached.  The box below it is shown, but it is not attached and
not found. -/
theorem History.not_attached_sunkRoot : ∃ record tree, History record tree ∧
    tree.parent? root = some 2 ∧ tree.isAttached root = false ∧
    tree.Downward root 1 ∧ 1 ∈ tree.documentOrder ∧ tree.isAttached 1 = false ∧
    latest? record "E2" = some 1 ∧ tree.lookup? "E2" = none := by
  have h : History (replay sunkRoot).1 (replay sunkRoot).2 := history_replay (by decide +kernel)
  have hchild : 1 ∈ (replay sunkRoot).2.children root := by decide +kernel
  refine ⟨_, _, h, ?_, ?_, .single hchild, ?_, ?_, ?_, ?_⟩
  all_goals decide +kernel

end Tree

end RemoteUi
