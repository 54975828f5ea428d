import RemoteUi.Proofs.Tree.Ancestry
import RemoteUi.Tree.View

/-!
# The way down

A tree is looked at from a node down, and each look is cut off at a depth.  In a well-formed tree the
depth does not matter: no way down is longer than the number of slots, so a snapshot and an outline
show all the nodes that can be reached through children, and nothing else.

* §1 the way down as a relation, and induction along it;
* §2 snapshots and document order, each as an equation without a depth;
* §3 which nodes are shown.
-/

namespace RemoteUi

/-! ## §1 The way down -/

namespace Tree

/-- From `node` one comes to `other` through children.  The way starts at the node itself. -/
def Downward (tree : Tree) : (node other : Handle) → Prop :=
  Relation.ReflTransGen fun parent child => child ∈ tree.children parent

variable {tree : Tree} {node other : Handle}

namespace WellFormed

/-- One comes down to a node exactly from where one comes to on the way up from it. -/
theorem downward_iff (h : tree.WellFormed) : tree.Downward node other ↔ tree.Upward other node := by
  have hswap : (fun parent child => child ∈ tree.children parent) =
      Function.swap fun child parent => tree.parent? child = some parent := by
    funext parent child
    exact propext (h.mem_children_iff parent child)
  rw [Downward, hswap, Relation.reflTransGen_swap]
  rfl

theorem length_lineageUpTo_le (tree : Tree) (limit : Nat) (node : Handle) :
    (tree.lineageUpTo limit node).length ≤ limit := by
  induction limit generalizing node with
  | zero => exact Nat.le_refl _
  | succ limit ih =>
    rw [lineageUpTo, List.length_cons]
    cases tree.parent? node with
    | none => exact Nat.succ_le_succ (Nat.zero_le _)
    | some parent => exact Nat.succ_le_succ (ih parent)

/-- A child is one level further down. -/
theorem length_lineage_child (h : tree.WellFormed) {child : Handle}
    (hchild : child ∈ tree.children node) :
    (tree.lineage child).length = (tree.lineage node).length + 1 := by
  rw [h.lineage_eq child, (h.mem_children_iff node child).mp hchild, List.length_cons]

/-- **Induction on the depth to which one looks down**, as long as the levels above the node and
those that are looked at make up the number of slots.  At depth zero no children are left. -/
theorem depth_induction (h : tree.WellFormed) {motive : Nat → Handle → Prop}
    (leaf : ∀ node, tree.children node = [] → motive 0 node)
    (inner : ∀ depth node, (∀ child ∈ tree.children node, motive depth child) →
      motive (depth + 1) node)
    (depth : Nat) (node : Handle) (hdeep : tree.slots.size ≤ depth + (tree.lineage node).length) :
    motive depth node := by
  induction depth generalizing node with
  | zero =>
    apply leaf
    rw [List.eq_nil_iff_forall_not_mem]
    intro child hchild
    -- The lineage of a child would be longer than lineages are.
    have hlength := h.length_lineage_child hchild
    have hbound : (tree.lineage child).length ≤ tree.slots.size := length_lineageUpTo_le _ _ _
    omega
  | succ depth ih =>
    apply inner
    intro child hchild
    apply ih
    rw [h.length_lineage_child hchild]
    omega

/-- **Induction from the leaves up**: what holds of a node if it holds of all its children holds of
every node. -/
theorem children_induction (h : tree.WellFormed) {motive : Handle → Prop}
    (inner : ∀ node, (∀ child ∈ tree.children node, motive child) → motive node)
    (node : Handle) : motive node := by
  refine h.depth_induction (motive := fun _ => motive) (fun node hleaf => ?_)
    (fun _ => inner) tree.slots.size node (Nat.le_add_right _ _)
  apply inner
  rw [hleaf]
  exact fun child hchild => absurd hchild List.not_mem_nil

end WellFormed

/-! ## §2 Looking down -/

/-- The snapshot of a node over snapshots of what is below it. -/
def snapshotOver (tree : Tree) (node : Handle) (below : List Snapshot) : Snapshot :=
  match tree.element? node with
  | some e => .element e.id e.tag e.vocabulary e.attributes e.properties below
  | none => .text ((tree.text? node).getD "")

theorem snapshotTo_zero (tree : Tree) (node : Handle) :
    tree.snapshotTo 0 node = tree.snapshotOver node [] := by
  rw [snapshotTo, snapshotOver, element?_eq, text?_eq]
  rcases tree.slots[node]? with _ | ⟨_, _, _ | _⟩ <;> rfl

theorem snapshotTo_succ (tree : Tree) (depth : Nat) (node : Handle) :
    tree.snapshotTo (depth + 1) node =
      tree.snapshotOver node ((tree.children node).map (tree.snapshotTo depth)) := by
  rw [snapshotTo, snapshotOver, element?_eq, text?_eq, children_eq]
  rcases tree.slots[node]? with _ | ⟨_, _, _ | _⟩ <;> rfl

/-- The nodes from a node down in document order, each with its level, which is `level` for the
node itself. -/
def preorderFrom (tree : Tree) (level : Nat) (node : Handle) : List (Nat × Handle) :=
  tree.preorderTo level tree.slots.size node

namespace WellFormed

/-- Deep enough, one level more shows nothing more. -/
theorem snapshotTo_succ_eq (h : tree.WellFormed) {depth : Nat}
    (hdeep : tree.slots.size ≤ depth + (tree.lineage node).length) :
    tree.snapshotTo (depth + 1) node = tree.snapshotTo depth node := by
  refine h.depth_induction
    (motive := fun depth node => tree.snapshotTo (depth + 1) node = tree.snapshotTo depth node)
    (fun node hleaf => ?_) (fun depth node ih => ?_) depth node hdeep
  · rw [snapshotTo_succ, snapshotTo_zero, hleaf, List.map_nil]
  · rw [snapshotTo_succ, snapshotTo_succ tree depth, List.map_congr_left ih]

/-- **The bound on the depth does not cut a snapshot off**: below each child it goes on with the
snapshot of the child. -/
theorem snapshot_eq (h : tree.WellFormed) (node : Handle) :
    tree.snapshot node = tree.snapshotOver node ((tree.children node).map tree.snapshot) := by
  obtain ⟨n, hn⟩ : ∃ n, tree.slots.size = n + 1 := ⟨_, (Nat.sub_add_cancel h.root_lt).symm⟩
  have hchildren : ∀ child ∈ tree.children node, tree.snapshotTo n child = tree.snapshot child := by
    intro child hchild
    have hlength := h.length_lineage_child hchild
    rw [snapshot, hn]
    exact (h.snapshotTo_succ_eq (by omega)).symm
  rw [snapshot, hn, snapshotTo_succ, List.map_congr_left hchildren]

theorem preorderTo_succ_eq (h : tree.WellFormed) {depth : Nat}
    (hdeep : tree.slots.size ≤ depth + (tree.lineage node).length) (level : Nat) :
    tree.preorderTo level (depth + 1) node = tree.preorderTo level depth node := by
  refine h.depth_induction
    (motive := fun depth node => ∀ level,
      tree.preorderTo level (depth + 1) node = tree.preorderTo level depth node)
    (fun node hleaf level => ?_) (fun depth node ih level => ?_) depth node hdeep level
  · rw [preorderTo, preorderTo, hleaf, List.flatMap_nil]
  · rw [preorderTo, preorderTo]
    exact congrArg _ (List.flatMap_congr fun child hchild => ih child hchild (level + 1))

/-- **The bound on the depth does not cut the document order short**: after a node come its
children, each with what is below it, one level further down. -/
theorem preorderFrom_eq (h : tree.WellFormed) (level : Nat) (node : Handle) :
    tree.preorderFrom level node =
      (level, node) :: (tree.children node).flatMap (tree.preorderFrom (level + 1)) := by
  obtain ⟨n, hn⟩ : ∃ n, tree.slots.size = n + 1 := ⟨_, (Nat.sub_add_cancel h.root_lt).symm⟩
  have hchildren : ∀ child ∈ tree.children node,
      tree.preorderTo (level + 1) n child = tree.preorderFrom (level + 1) child := by
    intro child hchild
    have hlength := h.length_lineage_child hchild
    rw [preorderFrom, hn]
    exact (h.preorderTo_succ_eq (by omega) (level + 1)).symm
  rw [preorderFrom, hn, preorderTo]
  exact congrArg _ (List.flatMap_congr hchildren)

end WellFormed

end Tree

/-! ## §3 What is shown -/

mutual

/-- All the snapshots in a snapshot, itself first, in document order. -/
def Snapshot.parts : Snapshot → List Snapshot
  | .text content => [.text content]
  | .element id tag vocabulary attributes properties children =>
    .element id tag vocabulary attributes properties children :: Snapshot.partsOfAll children

/-- All the snapshots in some snapshots. -/
def Snapshot.partsOfAll : List Snapshot → List Snapshot
  | [] => []
  | snapshot :: rest => snapshot.parts ++ Snapshot.partsOfAll rest

end

theorem Snapshot.partsOfAll_map {α : Type} (f : α → Snapshot) (xs : List α) :
    partsOfAll (xs.map f) = xs.flatMap fun x => (f x).parts := by
  induction xs with
  | nil => rfl
  | cons x xs ih => rw [List.map_cons, partsOfAll, ih, List.flatMap_cons]

namespace Tree

variable {tree : Tree} {node other : Handle}

/-- A node over nothing but what is below it. -/
theorem parts_snapshotOver {below : List Snapshot} (h : tree.element? node = none → below = []) :
    (tree.snapshotOver node below).parts =
      tree.snapshotOver node below :: Snapshot.partsOfAll below := by
  unfold snapshotOver at *
  cases he : tree.element? node with
  | some e => rfl
  | none =>
    rw [h he]
    rfl

namespace WellFormed

theorem downward_of_mem_preorderTo {tree : Tree} {level depth : Nat} {node other : Handle}
    (h : other ∈ (tree.preorderTo level depth node).map (·.2)) : tree.Downward node other := by
  induction depth generalizing level node with
  | zero =>
    obtain rfl : other = node := by simpa [preorderTo] using h
    exact .refl
  | succ depth ih =>
    rw [preorderTo, List.map_cons, List.mem_cons, List.map_flatMap, List.mem_flatMap] at h
    rcases h with rfl | ⟨child, hchild, hother⟩
    · exact .refl
    · exact .head hchild (ih hother)

/-- **The document order from a node down holds the nodes that one comes to from it**, and no
others. -/
theorem mem_preorderFrom_iff (h : tree.WellFormed) (level : Nat) :
    other ∈ (tree.preorderFrom level node).map (·.2) ↔ tree.Downward node other := by
  refine ⟨downward_of_mem_preorderTo, fun hdown => ?_⟩
  induction hdown using Relation.ReflTransGen.head_induction_on generalizing level with
  | refl =>
    rw [h.preorderFrom_eq]
    exact List.mem_cons_self
  | @head node child hchild _ ih =>
    rw [h.preorderFrom_eq, List.map_cons, List.map_flatMap]
    exact List.mem_cons_of_mem _ (List.mem_flatMap.mpr ⟨child, hchild, ih (level + 1)⟩)

/-- **A snapshot shows the nodes of the document order**, one after the other. -/
theorem parts_snapshot (h : tree.WellFormed) (level : Nat) (node : Handle) :
    (tree.snapshot node).parts =
      ((tree.preorderFrom level node).map (·.2)).map tree.snapshot := by
  induction node using h.children_induction generalizing level with
  | _ node ih =>
    -- A text has nothing below it.
    have hleaf : tree.element? node = none → (tree.children node).map tree.snapshot = [] := by
      intro hnone
      rw [List.map_eq_nil_iff, List.eq_nil_iff_forall_not_mem]
      intro child hchild
      have helement := h.parent_element child node ((h.mem_children_iff node child).mp hchild)
      rw [hnone] at helement
      cases helement
    have hbelow : ∀ child ∈ tree.children node, (tree.snapshot child).parts =
        ((tree.preorderFrom (level + 1) child).map (·.2)).map tree.snapshot :=
      fun child hchild => ih child hchild (level + 1)
    rw [h.preorderFrom_eq, List.map_cons, List.map_cons, List.map_flatMap, List.map_flatMap,
      h.snapshot_eq node, parts_snapshotOver hleaf, Snapshot.partsOfAll_map, ← h.snapshot_eq node,
      List.flatMap_congr hbelow]

end WellFormed

end Tree

end RemoteUi
