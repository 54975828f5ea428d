import Mathlib.Data.List.Nodup
import Mathlib.Data.List.Perm.Subperm
import Mathlib.Logic.Relation
import RemoteUi.Proofs.Tree.Frame

/-!
# The way up

A tree is *well formed* if parents and children agree, only elements have children and every way up
ends.  In such a tree the bounded search for the top comes to an end: the lineage of a node holds
the node and all its ancestors, and a node is attached exactly if its way up comes by the root.

* §1 the way up as a relation;
* §2 well-formed trees;
* §3 lineages;
* §4 anchored trees, whose root is on top and whose ids name elements; attachment and look-ups.
-/

namespace RemoteUi

open RemoteUi.Wire

namespace Tree

/-! ## §1 The way up -/

/-- On the way up from `node` one comes by `other`.  The way starts at the node itself. -/
def Upward (tree : Tree) : (node other : Handle) → Prop :=
  Relation.ReflTransGen fun child parent => tree.parent? child = some parent

variable {tree tree' : Tree} {node other parent : Handle}

theorem Upward.refl (node : Handle) : tree.Upward node node := Relation.ReflTransGen.refl

theorem Upward.head (h : tree.parent? node = some parent) (hup : tree.Upward parent other) :
    tree.Upward node other :=
  Relation.ReflTransGen.head h hup

/-- The way up goes on at the parent. -/
theorem upward_iff_of_parent? (h : tree.parent? node = some parent) :
    tree.Upward node other ↔ node = other ∨ tree.Upward parent other := by
  constructor
  · intro hup
    rcases hup.cases_head with rfl | ⟨p, hp, hup⟩
    · exact .inl rfl
    · obtain rfl : parent = p := Option.some.inj (h.symm.trans hp)
      exact .inr hup
  · rintro (rfl | hup)
    · exact .refl _
    · exact .head h hup

/-- The way up ends at a node without parent. -/
theorem upward_iff_of_parent?_eq_none (h : tree.parent? node = none) :
    tree.Upward node other ↔ node = other := by
  constructor
  · intro hup
    rcases hup.cases_head with rfl | ⟨p, hp, -⟩
    · rfl
    · simp [h] at hp
  · rintro rfl
    exact .refl _

/-! ## §2 Well-formed trees -/

/-- The store of slots is a forest, and its first slot is an element. -/
structure WellFormed (tree : Tree) : Prop where
  root_element : (tree.element? root).isSome
  /-- Parents and children agree. -/
  mem_children_iff : ∀ parent child,
    child ∈ tree.children parent ↔ tree.parent? child = some parent
  nodup_children : ∀ node, (tree.children node).Nodup
  /-- A text has no children. -/
  parent_element : ∀ child parent,
    tree.parent? child = some parent → (tree.element? parent).isSome
  /-- Every way up ends. -/
  acyclic : WellFounded fun parent child => tree.parent? child = some parent

namespace WellFormed

theorem root_lt (h : tree.WellFormed) : root < tree.slots.size :=
  lt_of_isSome_element? h.root_element

theorem parent_lt (h : tree.WellFormed) (hp : tree.parent? node = some parent) :
    parent < tree.slots.size :=
  lt_of_isSome_element? (h.parent_element _ _ hp)

/-- No way up comes back. -/
theorem not_upward (h : tree.WellFormed) (hp : tree.parent? node = some parent) :
    ¬ tree.Upward parent node := by
  induction node using h.acyclic.induction generalizing parent with
  | _ node ih =>
    intro hup
    -- The way from the parent back to the node would also lead from the grandparent to the parent.
    rcases hup.cases_head with rfl | ⟨grandparent, hg, hup⟩
    · exact ih parent hp hp (.refl _)
    · exact ih parent hp hg (hup.tail hp)

/-! ## §3 Lineages -/

theorem upward_of_mem_lineageUpTo {limit : Nat} (h : other ∈ tree.lineageUpTo limit node) :
    tree.Upward node other := by
  induction limit generalizing node with
  | zero => simp [lineageUpTo] at h
  | succ limit ih =>
    simp only [lineageUpTo, List.mem_cons] at h
    rcases h with rfl | h
    · exact .refl _
    · cases hp : tree.parent? node with
      | none => simp [hp] at h
      | some parent =>
        simp only [hp] at h
        exact .head hp (ih h)

theorem nodup_lineageUpTo (h : tree.WellFormed) (limit : Nat) (node : Handle) :
    (tree.lineageUpTo limit node).Nodup := by
  induction limit generalizing node with
  | zero => simp [lineageUpTo]
  | succ limit ih =>
    cases hp : tree.parent? node with
    | none => simp [lineageUpTo, hp]
    | some parent =>
      simp only [lineageUpTo, hp, List.nodup_cons]
      exact ⟨fun hmem => h.not_upward hp (upward_of_mem_lineageUpTo hmem), ih parent⟩

theorem lt_of_mem_lineageUpTo (h : tree.WellFormed) {limit : Nat} (hnode : node < tree.slots.size)
    (hmem : other ∈ tree.lineageUpTo limit node) : other < tree.slots.size := by
  rcases (upward_of_mem_lineageUpTo hmem).cases_tail with rfl | ⟨m, -, hp⟩
  · exact hnode
  · exact h.parent_lt hp

/-- Going up a step further only adds to the end. -/
theorem take_lineageUpTo (tree : Tree) (limit : Nat) (node : Handle) :
    (tree.lineageUpTo (limit + 1) node).take limit = tree.lineageUpTo limit node := by
  induction limit generalizing node with
  | zero => simp [lineageUpTo]
  | succ limit ih =>
    rw [lineageUpTo, lineageUpTo, List.take_succ_cons]
    cases tree.parent? node with
    | none => simp
    | some parent => exact congrArg _ (ih parent)

/-- **The bound on the length of a lineage does not cut it short**: it goes on at the parent. -/
theorem lineage_eq (h : tree.WellFormed) (node : Handle) :
    tree.lineage node = node ::
      match tree.parent? node with
      | some parent => tree.lineage parent
      | none => [] := by
  rcases Nat.lt_or_ge node tree.slots.size with hlt | hge
  · -- The nodes on the way up are different from one another, so there are no more than slots.
    have hlength : (tree.lineageUpTo (tree.slots.size + 1) node).length ≤ tree.slots.size := by
      have hsub : tree.lineageUpTo (tree.slots.size + 1) node ⊆ List.range tree.slots.size :=
        fun m hm => List.mem_range.mpr (h.lt_of_mem_lineageUpTo hlt hm)
      simpa using (List.subperm_of_subset (h.nodup_lineageUpTo _ _) hsub).length_le
    have heq := take_lineageUpTo tree tree.slots.size node
    rw [List.take_of_length_le hlength] at heq
    rw [lineage, ← heq]
    rfl
  · -- A node without a slot is alone on its way up.
    obtain ⟨n, hn⟩ : ∃ n, tree.slots.size = n + 1 := ⟨_, (Nat.sub_add_cancel h.root_lt).symm⟩
    rw [parent?_eq_none_of_le hge, lineage, hn, lineageUpTo, parent?_eq_none_of_le hge]

/-- **A lineage holds the node and all its ancestors.** -/
theorem mem_lineage_iff (h : tree.WellFormed) : other ∈ tree.lineage node ↔
    tree.Upward node other := by
  induction node using h.acyclic.induction with
  | _ node ih =>
    rw [h.lineage_eq, List.mem_cons]
    cases hp : tree.parent? node with
    | none => simp [upward_iff_of_parent?_eq_none hp, eq_comm]
    | some parent => rw [upward_iff_of_parent? hp, ← ih parent hp, eq_comm]

/-- The lineage of a node ends where that of its parent does. -/
theorem getLast?_lineage_of_parent? (h : tree.WellFormed) (hp : tree.parent? node = some parent) :
    (tree.lineage node).getLast? = (tree.lineage parent).getLast? := by
  rw [h.lineage_eq node, hp]
  dsimp only
  rw [h.lineage_eq parent, List.getLast?_cons_cons]

/-- **A lineage ends at the top**, at the one node on the way up that has no parent. -/
theorem getLast?_lineage_iff (h : tree.WellFormed) : (tree.lineage node).getLast? = some other ↔
    tree.Upward node other ∧ tree.parent? other = none := by
  induction node using h.acyclic.induction with
  | _ node ih =>
    cases hp : tree.parent? node with
    | none =>
      rw [h.lineage_eq, hp, upward_iff_of_parent?_eq_none hp, List.getLast?_singleton,
        Option.some.injEq]
      constructor
      · rintro rfl
        exact ⟨rfl, hp⟩
      · exact And.left
    | some parent =>
      rw [h.getLast?_lineage_of_parent? hp, ih parent hp, upward_iff_of_parent? hp]
      constructor
      · exact And.imp_left .inr
      · rintro ⟨rfl | hup, hnone⟩
        · cases hp.symm.trans hnone
        · exact ⟨hup, hnone⟩

/-- A node is attached exactly if its way up comes by the root and ends there. -/
theorem isAttached_iff (h : tree.WellFormed) : tree.isAttached node ↔
    tree.Upward node root ∧ tree.parent? root = none := by
  rw [isAttached, decide_eq_true_iff, h.getLast?_lineage_iff]

end WellFormed

/-! ## §4 Anchored trees -/

/-- A well-formed tree whose root is on top and has no id, and whose ids name elements. -/
structure Anchored (tree : Tree) : Prop extends tree.WellFormed where
  root_top : tree.parent? root = none
  root_id : tree.id? root = none
  ids : ∀ id node, tree.ids.get? id = some node → tree.id? node = some id

theorem lt_of_id? {id : NodeId} (h : tree.id? node = some id) : node < tree.slots.size := by
  obtain ⟨e, he, -⟩ := Option.bind_eq_some_iff.mp h
  exact lt_of_element? he

theorem lookup?_eq_some_iff {id : NodeId} : tree.lookup? id = some node ↔
    tree.ids.get? id = some node ∧ tree.isAttached node :=
  Option.filter_eq_some_iff

theorem lookup?_eq_none_iff {id : NodeId} : tree.lookup? id = none ↔
    ∀ node, tree.ids.get? id = some node → ¬ tree.isAttached node :=
  Option.filter_eq_none_iff

/-- The new tree is anchored. -/
theorem anchored_new : new.Anchored := by
  -- There is one node, and it has neither a parent nor children.
  have hparent : ∀ n, new.parent? n = none := by
    intro n
    cases n <;> rfl
  have hchildren : ∀ n, new.children n = [] := by
    intro n
    cases n <;> rfl
  refine ⟨⟨rfl, fun p c => ?_, fun n => ?_, fun c p hp => ?_, ⟨fun c => .intro c fun p hp => ?_⟩⟩,
    rfl, rfl, fun id n hget => ?_⟩
  · simp [hchildren, hparent]
  · simp [hchildren]
  · simp [hparent] at hp
  · simp [hparent] at hp
  · cases hget

namespace Anchored

/-- **A node is attached exactly if its way up comes by the root.** -/
theorem isAttached_iff (h : tree.Anchored) : tree.isAttached node ↔ tree.Upward node root := by
  rw [h.toWellFormed.isAttached_iff]
  exact and_iff_left h.root_top

theorem isAttached_root (h : tree.Anchored) : tree.isAttached root :=
  h.isAttached_iff.mpr (.refl _)

/-- A node with a parent is attached if its parent is, and only then. -/
theorem isAttached_iff_of_parent? (h : tree.Anchored) (hp : tree.parent? node = some parent) :
    tree.isAttached node ↔ tree.isAttached parent := by
  have hne : node ≠ root := by
    rintro rfl
    simp [h.root_top] at hp
  rw [h.isAttached_iff, h.isAttached_iff, upward_iff_of_parent? hp]
  simp [hne]

/-- What is below an attached node is attached. -/
theorem isAttached_of_upward (h : tree.Anchored) (hup : tree.Upward node other)
    (hatt : tree.isAttached other) : tree.isAttached node :=
  h.isAttached_iff.mpr (Relation.ReflTransGen.trans hup (h.isAttached_iff.mp hatt))

/-- Of the nodes without parent only the root is attached. -/
theorem eq_root_of_isAttached (h : tree.Anchored) (hp : tree.parent? node = none)
    (hatt : tree.isAttached node) : node = root :=
  (upward_iff_of_parent?_eq_none hp).mp (h.isAttached_iff.mp hatt)

/-- The node found under an id is attached and has this id. -/
theorem of_lookup? (h : tree.Anchored) {id : NodeId} (hl : tree.lookup? id = some node) :
    tree.id? node = some id ∧ tree.isAttached node := by
  obtain ⟨hget, hatt⟩ := lookup?_eq_some_iff.mp hl
  exact ⟨h.ids _ _ hget, hatt⟩

/-- The root is found under no id. -/
theorem ne_root_of_id? (h : tree.Anchored) {id : NodeId} (hid : tree.id? node = some id) :
    node ≠ root := by
  rintro rfl
  simp [h.root_id] at hid

end Anchored

end Tree

end RemoteUi
