import RemoteUi.Proofs.Tree.Attributes
import RemoteUi.Proofs.Tree.Walks

/-!
# Histories of a tree

A tree that starts with its root only is changed by whoever holds handles of its nodes.  Whatever is
asked of it, in whatever order, parents and children stay two sides of one forest, and a change that
is refused is as if it had not been asked for.

* §1 the changes that can be asked of a tree;
* §2 what a change does, all of it in one lemma;
* §3 histories, and the handles that a tree has given out;
* §4 what every tree with a history is like;
* §5 the theorem.
-/

namespace RemoteUi

open RemoteUi.Wire

namespace Tree

/-! ## §1 Changes -/

/-- What can be asked of a tree that may change it. -/
inductive Change where
  | createElement (vocabulary : Vocabulary) (tag : String) (id : NodeId)
  | createText (content : String)
  | append (parent node : Handle)
  | remove (parent node : Handle)
  | setAttribute (node : Handle) (key value : String)
  | removeAttribute (node : Handle) (key : String)
  | setProperty (node : Handle) (key value : String)
  | invoke (node : Handle) (operation : String)
  | addListener (node : Handle) (listener : Listener)
  /-- The user selects an entry. -/
  | userSelect (node : Handle) (index : Int)
  /-- The selections that were reported are handed over. -/
  | takeSelections
  deriving DecidableEq, Repr

namespace Change

/-- The nodes that a change names. -/
def handles : Change → List Handle
  | .createElement .. | .createText _ | .takeSelections => []
  | .append parent node | .remove parent node => [parent, node]
  | .setAttribute node .. | .removeAttribute node _ | .setProperty node .. | .invoke node _
  | .addListener node _ | .userSelect node _ => [node]

/-- A change as an edit.  The result is the new node, if the change creates one. -/
def edit : Change → Edit (Option Handle)
  | .createElement vocabulary tag id => some <$> Tree.createElement vocabulary tag id
  | .createText content => some <$> Tree.createText content
  | .append parent node => (fun _ => none) <$> Tree.append parent node
  | .remove parent node => (fun _ => none) <$> Tree.remove parent node
  | .setAttribute node key value => (fun _ => none) <$> Tree.setAttribute node key value
  | .removeAttribute node key => (fun _ => none) <$> Tree.removeAttribute node key
  | .setProperty node key value => (fun _ => none) <$> Tree.setProperty node key value
  | .invoke node operation => (fun _ => none) <$> Tree.invoke node operation
  | .addListener node listener => (fun _ => none) <$> Tree.addListener node listener
  | .userSelect node index => do
    modify fun tree => (tree.userSelect node index).2
    return none
  | .takeSelections => do
    modify fun tree => tree.takeSelections.2
    return none

/-- What a tree answers to a change. -/
def answer (change : Change) (tree : Tree) : Except TreeError (Option Handle) :=
  match change.edit tree with
  | .ok node? _ => .ok node?
  | .error error _ => .error error

/-- The tree that a change leaves, whether it was refused or not. -/
def after (change : Change) (tree : Tree) : Tree :=
  match change.edit tree with
  | .ok _ tree => tree
  | .error _ tree => tree

/-- Whether a change leaves all nodes in their places and brings no new ones. -/
def isQuiet : Change → Bool
  | .createElement .. | .createText _ | .append .. | .remove .. => false
  | _ => true

end Change

/-! ## §2 What a change does -/

/-- Everything that a change can do if it is not refused. -/
inductive Change.Effect (tree : Tree) : Change → Option Handle → Tree → Prop where
  | element (vocabulary : Vocabulary) (tag : String) (id : NodeId) :
      Effect tree (.createElement vocabulary tag id) (some tree.slots.size)
        (tree.withElement vocabulary tag id)
  | text (content : String) :
      Effect tree (.createText content) (some tree.slots.size) (tree.push (.text content))
  /-- The node is taken from where it was and put last below an element that is not below it. -/
  | place (parent node : Handle) (helement : (tree.element? parent).isSome)
      (hcycle : node ∉ tree.lineage parent) :
      Effect tree (.append parent node) none ((tree.detach node).attachLast parent node)
  | cut (parent node : Handle) : Effect tree (.remove parent node) none (tree.detach node)
  | quiet (change : Change) {tree' : Tree} (hquiet : change.isQuiet)
      (hshape : tree.SameShape tree')
      (hselections : ∀ n ∈ tree'.selections, n ∈ tree.selections ∨ n ∈ change.handles) :
      Effect tree change none tree'

variable {tree tree' : Tree} {node other parent : Handle} {change : Change}

/-- A change is refused and leaves the tree as it was, or it has one of the effects. -/
def Change.Settles (change : Change) (tree : Tree) : Prop :=
  (∃ error, change.edit tree = .error error tree) ∨
    ∃ node? tree', change.edit tree = .ok node? tree' ∧ change.Effect tree node? tree'

theorem map_apply {α β : Type} (f : α → β) (edit : Edit α) (tree : Tree) :
    (f <$> edit) tree =
      match edit tree with
      | .ok a tree => .ok (f a) tree
      | .error e tree => .error e tree := by
  simp only [Functor.map, EStateM.map]
  cases edit tree <;> rfl

/-- A changed selection is reported by its own element only. -/
theorem mem_selections_setProperty {key value : String}
    (h : setProperty node key value tree = .ok () tree') (hn : other ∈ tree'.selections) :
    other ∈ tree.selections ∨ other = node := by
  rw [setProperty_eq] at h
  split at h
  · cases h
  · next u t hm =>
    have hsame := selections_modifyElement hm
    cases h
    split at hn
    · rcases List.mem_append.mp hn with hn | hn
      · exact .inl (hsame ▸ hn)
      · exact .inr (List.mem_singleton.mp hn)
    · exact .inl (hsame ▸ hn)

theorem selections_userSelect (tree : Tree) (node : Handle) (index : Int) :
    (tree.userSelect node index).2.selections = tree.selections := by
  rcases tree.userSelect_cases node index with h | h
  · rw [h]
  · exact selections_modifyElement h

/-- An edit that leaves all nodes in their places is such a change. -/
theorem Change.settles_quiet {edit : Edit Unit}
    (hedit : change.edit = (fun _ => none) <$> edit) (hquiet : change.isQuiet)
    (hatomic : Atomic edit)
    (hshape : ∀ tree', edit tree = .ok () tree' → tree.SameShape tree')
    (hselections : ∀ tree', edit tree = .ok () tree' →
      ∀ n ∈ tree'.selections, n ∈ tree.selections ∨ n ∈ change.handles) :
    change.Settles tree := by
  unfold Settles
  rw [hedit, map_apply]
  cases h : edit tree with
  | error e tree' =>
    obtain rfl := hatomic tree e tree' h
    exact .inl ⟨e, rfl⟩
  | ok u tree' => exact .inr ⟨none, tree', rfl, .quiet change hquiet (hshape _ h) (hselections _ h)⟩

/-- An edit of one element leaves the reported selections alone. -/
theorem Change.settles_modifyElement {f : Element → Element}
    (hedit : change.edit = (fun _ => none) <$> modifyElement node f) (hquiet : change.isQuiet)
    (hkind : ∀ e, (f e).kind = e.kind) : change.Settles tree := by
  refine settles_quiet hedit hquiet (atomic_modifyElement node f)
    (fun _ => sameShape_modifyElement hkind) fun tree' h n hn => .inl ?_
  rwa [selections_modifyElement h] at hn

/-- **A change does one of the five things, or it is refused and does nothing.** -/
theorem Change.settles (change : Change) (tree : Tree) : change.Settles tree := by
  cases change with
  | createElement vocabulary tag id =>
    rw [Settles, edit, map_apply, createElement_eq]
    by_cases htag : isTag tag
    · rw [if_pos htag]
      exact .inr ⟨_, _, rfl, .element vocabulary tag id⟩
    · rw [if_neg htag]
      exact .inl ⟨_, rfl⟩
  | createText content => exact Or.inr ⟨_, _, rfl, .text content⟩
  | append parent node =>
    rw [Settles, edit, map_apply, append_eq]
    by_cases helement : (tree.element? parent).isNone
    · rw [if_pos helement]
      exact .inl ⟨_, rfl⟩
    by_cases hcycle : (tree.lineage parent).contains node
    · rw [if_neg helement, if_pos hcycle]
      exact .inl ⟨_, rfl⟩
    · rw [if_neg helement, if_neg hcycle]
      refine .inr ⟨_, _, rfl, .place parent node ?_ ?_⟩
      · simpa [Option.isSome_iff_ne_none] using helement
      · simpa using hcycle
  | remove parent node =>
    rw [Settles, edit, map_apply, remove_eq]
    by_cases hparent : tree.parent? node = some parent
    · rw [if_pos hparent]
      exact .inr ⟨_, _, rfl, .cut parent node⟩
    · rw [if_neg hparent]
      exact .inl ⟨_, rfl⟩
  | setAttribute node key value => exact settles_modifyElement rfl rfl fun _ => rfl
  | removeAttribute node key => exact settles_modifyElement rfl rfl fun _ => rfl
  | setProperty node key value =>
    refine settles_quiet rfl rfl (atomic_setProperty node key value)
      (fun _ => sameShape_setProperty) fun tree' h n hn => ?_
    exact (mem_selections_setProperty h hn).imp_right List.mem_singleton.mpr
  | invoke node operation =>
    by_cases hknown : operations.contains operation
    · have hedit : (Change.invoke node operation).edit = (fun _ => none) <$>
          modifyElement node fun e => { e with invoked := e.invoked ++ [operation] } := by
        rw [edit, Tree.invoke, if_pos hknown]
      exact settles_modifyElement hedit rfl fun _ => rfl
    · -- An operation that no element offers is refused before the element is looked at.
      refine Or.inl ⟨.unknownOperation operation, ?_⟩
      rw [edit, map_apply, Tree.invoke, if_neg hknown]
      rfl
  | addListener node listener => exact settles_modifyElement rfl rfl fun _ => rfl
  | userSelect node index =>
    refine Or.inr ⟨none, _, rfl, .quiet _ rfl (sameShape_userSelect tree node index) fun n hn => ?_⟩
    exact .inl (selections_userSelect tree node index ▸ hn)
  | takeSelections =>
    refine Or.inr ⟨none, _, rfl, .quiet _ rfl ?_ fun n hn => absurd hn List.not_mem_nil⟩
    exact ⟨rfl, rfl, fun _ => rfl, fun _ => rfl, fun _ => rfl, fun _ => rfl⟩

/-- A change that is refused leaves the tree as it was, and any other one has its effect. -/
theorem Change.answer_cases (change : Change) (tree : Tree) :
    (∃ error, change.answer tree = .error error ∧ change.after tree = tree) ∨
      ∃ node?, change.answer tree = .ok node? ∧ change.Effect tree node? (change.after tree) := by
  unfold answer after
  rcases change.settles tree with ⟨error, h⟩ | ⟨node?, tree', h, heffect⟩
  · rw [h]
    exact .inl ⟨error, rfl, rfl⟩
  · rw [h]
    exact .inr ⟨node?, rfl, heffect⟩

/-! ## §3 Histories -/

/-- A change that was made, with the answer to it. -/
structure Made where
  change : Change
  answer : Except TreeError (Option Handle)

/-- The node that was created. -/
def Made.node? (made : Made) : Option Handle :=
  match made.answer with
  | .ok node? => node?
  | .error _ => none

/-- The element that was created under an id. -/
def Made.elementUnder? (made : Made) (id : NodeId) : Option Handle :=
  match made.change with
  | .createElement _ _ id' => if id' = id then made.node? else none
  | _ => none

/-- The handles that a tree has given out: that of the root, and those of the nodes created since. -/
def given (record : List Made) : List Handle := root :: record.filterMap Made.node?

/-- The element created most recently under an id. -/
def latest? (record : List Made) (id : NodeId) : Option Handle :=
  (record.filterMap (·.elementUnder? id)).getLast?

/-- The trees that changes lead to from the new tree, each with the record of the changes.  A change
names nodes only by handles that the tree has given out before. -/
inductive History : List Made → Tree → Prop where
  | new : History [] new
  | step {record : List Made} {tree : Tree} (h : History record tree) (change : Change)
      (hgiven : ∀ node ∈ change.handles, node ∈ given record) :
      History (record ++ [⟨change, change.answer tree⟩]) (change.after tree)

/-- The record and the tree after some changes, the latest of which stands first. -/
def replay : List Change → List Made × Tree
  | [] => ([], new)
  | change :: earlier =>
    let (record, tree) := replay earlier
    (record ++ [⟨change, change.answer tree⟩], change.after tree)

/-- Whether changes name only handles that were given out before, the latest change standing
first. -/
def isLegal : List Change → Bool
  | [] => true
  | change :: earlier =>
    change.handles.all (given (replay earlier).1).contains && isLegal earlier

/-- Legal changes make a history. -/
theorem history_replay {changes : List Change} (h : isLegal changes) :
    History (replay changes).1 (replay changes).2 := by
  induction changes with
  | nil => exact .new
  | cons change earlier ih =>
    simp only [isLegal, Bool.and_eq_true, List.all_eq_true, List.contains_iff_mem] at h
    exact .step (ih h.2) change h.1

theorem given_concat (record : List Made) (made : Made) :
    given (record ++ [made]) = given record ++ made.node?.toList := by
  unfold given
  rw [List.filterMap_append, List.cons_append]
  cases h : made.node? <;> simp [h]

theorem latest?_concat (record : List Made) (made : Made) (id : NodeId) :
    latest? (record ++ [made]) id = (made.elementUnder? id).or (latest? record id) := by
  unfold latest?
  rw [List.filterMap_append, List.getLast?_append]
  cases h : made.elementUnder? id <;> simp [h]

/-- A change that brings no new node gives no handle out. -/
theorem Made.elementUnder?_eq_none {made : Made} (h : made.node? = none) (id : NodeId) :
    made.elementUnder? id = none := by
  unfold elementUnder?
  split
  · split
    · exact h
    · rfl
  · rfl

/-! ## §4 Trees with a history -/

/-- Wherever one comes to without the way above `node`, one came to before. -/
theorem upward_of_detach (h : (tree.detach node).Upward other parent) : tree.Upward other parent := by
  refine Relation.ReflTransGen.mono (fun child p hp => ?_) _ _ h
  rw [parent?_detach] at hp
  split at hp
  · cases hp
  · exact hp

/-- **What a change does keeps a tree well formed**, if it names nodes of the tree. -/
theorem WellFormed.effect (h : tree.WellFormed) {node? : Option Handle}
    (heffect : change.Effect tree node? tree')
    (hhandles : ∀ node ∈ change.handles, node < tree.slots.size) : tree'.WellFormed := by
  cases heffect with
  | element vocabulary tag id =>
    have hpush := h.push (.element { vocabulary, tag, id := some id })
    exact ⟨hpush.root_element, hpush.mem_children_iff, hpush.nodup_children,
      hpush.parent_element, hpush.acyclic⟩
  | text content => exact h.push _
  | place parent node helement hcycle =>
    have hnode : node < tree.slots.size := hhandles node (by simp [Change.handles])
    refine (h.detach node).attachLast (by simpa using hnode) ?_ (by simpa using helement) ?_
    · rw [parent?_detach, if_pos rfl]
    · -- The lineage of the parent is the way up from it.
      exact fun hup => hcycle (h.mem_lineage_iff.mpr (upward_of_detach hup))
  | cut parent node => exact h.detach node
  | quiet change hquiet hshape => exact hshape.wellFormed h

/-- What a tree with a history has to do with its record. -/
structure Kept (record : List Made) (tree : Tree) : Prop where
  wellFormed : tree.WellFormed
  /-- The handles that were given out are those of the slots. -/
  given : ∀ node, node ∈ given record ↔ node < tree.slots.size
  /-- An id means the element that was created last under it. -/
  ids : ∀ id, tree.ids.get? id = latest? record id
  selections : ∀ node ∈ tree.selections, node < tree.slots.size

theorem kept_new : Kept [] new where
  wellFormed := anchored_new.toWellFormed
  given _ := List.mem_singleton.trans Nat.lt_one_iff.symm
  ids _ := rfl
  selections _ hn := absurd hn List.not_mem_nil

/-- A change without a new node, as far as the record is concerned. -/
theorem Kept.still {record : List Made} (h : Kept record tree) {made : Made}
    (hmade : made.node? = none) (hwf : tree'.WellFormed)
    (hsize : tree'.slots.size = tree.slots.size) (hids : tree'.ids = tree.ids)
    (hselections : ∀ node ∈ tree'.selections, node ∈ tree.selections ∨ node < tree.slots.size) :
    Kept (record ++ [made]) tree' where
  wellFormed := hwf
  given node := by rw [given_concat, hmade, hsize, ← h.given]; simp
  ids id := by
    rw [latest?_concat, made.elementUnder?_eq_none hmade, hids, h.ids]
    rfl
  selections node hn := by
    rw [hsize]
    exact (hselections node hn).elim (h.selections node) id

/-- A new node gets the first handle that was not given out yet. -/
theorem Kept.created {record : List Made} (h : Kept record tree) {made : Made}
    (hmade : made.node? = some tree.slots.size) (hwf : tree'.WellFormed)
    (hsize : tree'.slots.size = tree.slots.size + 1)
    (hids : ∀ id, tree'.ids.get? id = (made.elementUnder? id).or (tree.ids.get? id))
    (hselections : tree'.selections = tree.selections) : Kept (record ++ [made]) tree' where
  wellFormed := hwf
  given node := by
    rw [given_concat, hmade, hsize, List.mem_append, h.given, Option.toList_some,
      List.mem_singleton]
    exact Nat.lt_succ_iff_lt_or_eq.symm
  ids id := by rw [hids, latest?_concat, h.ids]
  selections node hn := by
    rw [hselections] at hn
    rw [hsize]
    exact Nat.lt_succ_of_lt (h.selections node hn)

@[simp] theorem selections_detach (tree : Tree) (node : Handle) :
    (tree.detach node).selections = tree.selections := by
  unfold detach
  split <;> rfl

/-- **A change keeps the record and the tree together.** -/
theorem Kept.step {record : List Made} (h : Kept record tree)
    (hgiven : ∀ node ∈ change.handles, node ∈ Tree.given record) :
    Kept (record ++ [⟨change, change.answer tree⟩]) (change.after tree) := by
  have hhandles : ∀ node ∈ change.handles, node < tree.slots.size :=
    fun node hnode => (h.given node).mp (hgiven node hnode)
  rcases change.answer_cases tree with ⟨error, hanswer, hafter⟩ | ⟨node?, hanswer, heffect⟩
  · -- A refused change leaves the tree as it was.
    rw [hanswer, hafter]
    exact h.still rfl h.wellFormed rfl rfl fun _ => .inl
  · have hwf := h.wellFormed.effect heffect hhandles
    rw [hanswer]
    generalize change.after tree = tree' at heffect hwf ⊢
    cases heffect with
    | element vocabulary tag id =>
      refine h.created rfl hwf (size_withElement ..) (fun id' => ?_) rfl
      rw [ids_withElement, Dict.get?_insert]
      simp only [Made.elementUnder?, Made.node?]
      split <;> rfl
    | text content => exact h.created rfl hwf (size_push ..) (fun _ => rfl) rfl
    | place parent node =>
      exact h.still rfl hwf (by simp) (by simp) fun n hn => .inl (selections_detach tree node ▸ hn)
    | cut parent node => exact h.still rfl hwf (by simp) (by simp) fun n hn => .inl (by simpa using hn)
    | quiet change hquiet hshape hselections =>
      exact h.still rfl hwf hshape.size hshape.ids
        fun n hn => (hselections n hn).imp_right (hhandles n)

theorem History.kept {record : List Made} (h : History record tree) : Kept record tree := by
  induction h with
  | new => exact kept_new
  | step h change hgiven ih => exact ih.step hgiven

/-- **A tree tells of no node whose handle it has not given out.** -/
theorem History.told {record : List Made} (h : History record tree) :
    (∀ node parent, tree.parent? node = some parent → parent ∈ given record) ∧
      (∀ node, ∀ child ∈ tree.children node, child ∈ given record) ∧
      (∀ id node, tree.lookup? id = some node → node ∈ given record) ∧
      ∀ node ∈ tree.selections, node ∈ given record := by
  have hkept := h.kept
  have hwf := hkept.wellFormed
  refine ⟨fun node parent hp => ?_, fun node child hchild => ?_, fun id node hl => ?_,
    fun node hnode => ?_⟩
  · exact (hkept.given parent).mpr (hwf.parent_lt hp)
  · exact (hkept.given child).mpr (lt_of_parent? ((hwf.mem_children_iff node child).mp hchild))
  · -- An id means an element that was created.
    have hlatest := (hkept.ids id).symm.trans (lookup?_eq_some_iff.mp hl).1
    obtain ⟨made, hmade, hunder⟩ := List.mem_filterMap.mp (List.mem_of_getLast? hlatest)
    have hnode : made.node? = some node := by
      cases hm : made.node? with
      | none => rw [made.elementUnder?_eq_none hm] at hunder; cases hunder
      | some other =>
        unfold Made.elementUnder? at hunder
        split at hunder
        · split at hunder
          · rw [← hm]
            exact hunder
          · cases hunder
        · cases hunder
    exact List.mem_cons_of_mem _ (List.mem_filterMap.mpr ⟨made, hmade, hnode⟩)
  · exact (hkept.given node).mpr (hkept.selections node hnode)

/-! ## §5 The theorem -/

/-- The node that one comes to from a node by some steps up, unless the way ends before. -/
def climb (tree : Tree) : (steps : Nat) → (node : Handle) → Option Handle
  | 0, node => some node
  | steps + 1, node => (tree.parent? node).bind (tree.climb steps)

/-- The parents and the children of a tree, which are stored apart, are those of one forest. -/
structure IsForest (tree : Tree) : Prop where
  agree : ∀ parent child, tree.parent? child = some parent ↔ child ∈ tree.children parent
  nodup : ∀ node, (tree.children node).Nodup
  disjoint : ∀ node parent other, node ∈ tree.children parent → node ∈ tree.children other →
    parent = other
  leaf : ∀ node content, tree.text? node = some content → tree.children node = []
  /-- From every node the way up ends after finitely many steps. -/
  ends : ∀ node, ∃ steps, tree.climb steps node = none

/-- No walk through a tree is cut short by its bound: each goes on, upwards or downwards, as it would
without one. -/
structure WalksEnd (tree : Tree) : Prop where
  /-- The walk that looks for circles. -/
  lineage : ∀ node, tree.lineage node = node ::
    match tree.parent? node with
    | some parent => tree.lineage parent
    | none => []
  isAttached : ∀ node, tree.isAttached node =
    match tree.parent? node with
    | some parent => tree.isAttached parent
    | none => decide (node = root)
  snapshot : ∀ node,
    tree.snapshot node = tree.snapshotOver node ((tree.children node).map tree.snapshot)
  /-- The walk of the outline. -/
  preorder : ∀ level node, tree.preorderFrom level node =
    (level, node) :: (tree.children node).flatMap (tree.preorderFrom (level + 1))

/-- A node was put last below a parent, and nothing else was changed. -/
structure Placed (tree : Tree) (parent node : Handle) (tree' : Tree) : Prop where
  parent?_self : tree'.parent? node = some parent
  parent?_other : ∀ other, other ≠ node → tree'.parent? other = tree.parent? other
  /-- This holds whether or not the node was a child of this parent before. -/
  children_parent : tree'.children parent = (tree.children parent).erase node ++ [node]
  children_former : ∀ former, tree.parent? node = some former → former ≠ parent →
    tree'.children former = (tree.children former).erase node
  children_other : ∀ other, other ≠ parent → tree.parent? node ≠ some other →
    tree'.children other = tree.children other
  element? : ∀ other, tree'.element? other = tree.element? other
  text? : ∀ other, tree'.text? other = tree.text? other
  size : tree'.slots.size = tree.slots.size
  ids : tree'.ids = tree.ids
  selections : tree'.selections = tree.selections

namespace WellFormed

theorem exists_climb (h : tree.WellFormed) (node : Handle) :
    ∃ steps, tree.climb steps node = none := by
  induction node using h.acyclic.induction with
  | _ node ih =>
    cases hp : tree.parent? node with
    | none => exact ⟨1, by rw [climb, hp, Option.bind_none]⟩
    | some parent =>
      obtain ⟨steps, hsteps⟩ := ih parent hp
      exact ⟨steps + 1, by rw [climb, hp, Option.bind_some, hsteps]⟩

theorem isForest (h : tree.WellFormed) : tree.IsForest where
  agree parent child := (h.mem_children_iff parent child).symm
  nodup := h.nodup_children
  disjoint node parent other hparent hother := by
    rw [h.mem_children_iff] at hparent hother
    exact Option.some.inj (hparent.symm.trans hother)
  leaf node content htext := by
    rw [List.eq_nil_iff_forall_not_mem]
    intro child hchild
    -- What has children is an element, and so it is no text.
    have helement := h.parent_element child node ((h.mem_children_iff node child).mp hchild)
    rw [text?_eq] at htext
    rw [element?_eq] at helement
    obtain ⟨slot, hslot, htext⟩ := Option.bind_eq_some_iff.mp htext
    rw [hslot, Option.bind_some] at helement
    cases hcontent : slot.content with
    | element e => rw [hcontent] at htext; cases htext
    | text s => rw [hcontent] at helement; cases helement
  ends := h.exists_climb

theorem isAttached_eq (h : tree.WellFormed) (node : Handle) : tree.isAttached node =
    match tree.parent? node with
    | some parent => tree.isAttached parent
    | none => decide (node = root) := by
  cases hp : tree.parent? node with
  | none => simp [isAttached, h.lineage_eq node, hp]
  | some parent => simp only [isAttached, h.getLast?_lineage_of_parent? hp]

theorem walksEnd (h : tree.WellFormed) : tree.WalksEnd :=
  ⟨h.lineage_eq, h.isAttached_eq, h.snapshot_eq, h.preorderFrom_eq⟩

/-- Taking a node away removes it from the one list of children that it is in. -/
theorem children_detach_eq_erase (h : tree.WellFormed) (node other : Handle) :
    (tree.detach node).children other = (tree.children other).erase node := by
  rw [children_detach, (h.nodup_children other).erase_eq_filter]
  split
  · refine List.filter_congr fun n _ => ?_
    rw [bne, beq_eq_decide, decide_not]
  · next hp =>
    symm
    rw [List.filter_eq_self]
    rintro n hn
    have hne : n ≠ node := by
      rintro rfl
      exact hp ((h.mem_children_iff other n).mp hn)
    simpa using hne

/-- **What an append does**, wherever the node was before. -/
theorem placed (h : tree.WellFormed) (hnode : node < tree.slots.size)
    (helement : (tree.element? parent).isSome) :
    tree.Placed parent node ((tree.detach node).attachLast parent node) := by
  have hparent : parent < (tree.detach node).slots.size := by
    rw [size_detach]
    exact lt_of_isSome_element? helement
  have hdetached : node < (tree.detach node).slots.size := by rwa [size_detach]
  refine { parent?_self := ?_, parent?_other := fun other hother => ?_, children_parent := ?_,
           children_former := fun former _ hne => ?_, children_other := fun other hne hp => ?_,
           element? := fun other => by simp, text? := fun other => by simp, size := by simp,
           ids := by simp, selections := selections_detach tree node }
  · rw [parent?_attachLast _ _ _ hdetached, if_pos rfl]
  · rw [parent?_attachLast _ _ _ hdetached, if_neg hother, parent?_detach, if_neg hother]
  · rw [children_attachLast _ _ _ hparent, if_pos rfl, h.children_detach_eq_erase]
  · rw [children_attachLast _ _ _ hparent, if_neg hne, h.children_detach_eq_erase]
  · rw [children_attachLast _ _ _ hparent, if_neg hne, children_detach, if_neg hp]

end WellFormed

/-- The answer to an append. -/
theorem answer_append (parent node : Handle) (tree : Tree) :
    (Change.append parent node).answer tree =
      if (tree.element? parent).isNone then .error .notAContainer
      else if (tree.lineage parent).contains node then .error .cycle
      else .ok none := by
  rw [Change.answer, Change.edit, map_apply, append_eq]
  by_cases helement : (tree.element? parent).isNone
  · simp only [if_pos helement]
  · by_cases hcycle : (tree.lineage parent).contains node
    · simp only [if_neg helement, if_pos hcycle]
    · simp only [if_neg helement, if_neg hcycle]

/-- An append closes a circle if its parent is an element from which one comes by the node on the way
up, the parent itself included. -/
theorem WellFormed.answer_append_eq_cycle_iff (h : tree.WellFormed) :
    (Change.append parent node).answer tree = .error .cycle ↔
      (tree.element? parent).isSome ∧ tree.Upward parent node := by
  rw [answer_append, ← h.mem_lineage_iff]
  cases tree.element? parent with
  | none => simp
  | some e => by_cases hmem : node ∈ tree.lineage parent <;> simp [hmem]

/-- Any other append below an element is carried out. -/
theorem WellFormed.answer_append_eq_ok_iff (h : tree.WellFormed) :
    (Change.append parent node).answer tree = .ok none ↔
      (tree.element? parent).isSome ∧ ¬ tree.Upward parent node := by
  rw [answer_append, ← h.mem_lineage_iff]
  cases tree.element? parent with
  | none => simp
  | some e => by_cases hmem : node ∈ tree.lineage parent <;> simp [hmem]

/-- What can be relied on in a tree with a history. -/
structure Reliable (record : List Made) (tree : Tree) : Prop where
  forest : tree.IsForest
  walksEnd : tree.WalksEnd
  /-- A change that is refused leaves the whole tree as it was. -/
  refused : ∀ (change : Change) error, change.answer tree = .error error →
    change.after tree = tree
  /-- An append is refused for a circle exactly if there would be one. -/
  cycle : ∀ parent node, (Change.append parent node).answer tree = .error .cycle ↔
    (tree.element? parent).isSome ∧ tree.Upward parent node
  /-- Any other append below an element is carried out. -/
  accepted : ∀ parent node, (Change.append parent node).answer tree = .ok none ↔
    (tree.element? parent).isSome ∧ ¬ tree.Upward parent node
  /-- It moves its one node. -/
  placed : ∀ parent node, parent ∈ given record → node ∈ given record →
    (Change.append parent node).answer tree = .ok none →
    tree.Placed parent node ((Change.append parent node).after tree)

/-- **A tree stays a forest, whatever was asked of it**, so that every walk through it ends.  What it
refuses leaves it as it was, and it refuses for a circle just those appends that would close one. -/
theorem History.reliable {record : List Made} {tree : Tree} (h : History record tree) :
    Reliable record tree := by
  have hkept := h.kept
  have hwf := hkept.wellFormed
  refine ⟨hwf.isForest, hwf.walksEnd, fun change error herror => ?_,
    fun _ _ => hwf.answer_append_eq_cycle_iff, fun _ _ => hwf.answer_append_eq_ok_iff,
    fun parent node _ hnode hok => ?_⟩
  · rcases change.answer_cases tree with ⟨_, -, hafter⟩ | ⟨node?, hanswer, -⟩
    · exact hafter
    · cases hanswer.symm.trans herror
  · rcases (Change.append parent node).answer_cases tree with
      ⟨error, herror, -⟩ | ⟨node?, -, heffect⟩
    · cases herror.symm.trans hok
    · generalize (Change.append parent node).after tree = tree' at heffect
      cases heffect with
      | place parent node helement hcycle =>
        exact hwf.placed ((hkept.given node).mp hnode) helement
      | quiet change hquiet => cases hquiet

/-- A box with a box in it, which is to be put below its own child, a text that is to hold a box, and
the inner box put below the root, from where it goes into another box. -/
def movedBox : List Change :=
  [.append 4 2, .createElement .xul "box" "E4", .append 0 2, .append 3 2, .createText "hi",
    .append 2 1, .append 0 1, .append 1 2, .createElement .xul "box" "E3",
    .createElement .xul "box" "E2"]

theorem History.reliable_movedBox : History (replay movedBox).1 (replay movedBox).2 ∧
    Reliable (replay movedBox).1 (replay movedBox).2 := by
  have h : History (replay movedBox).1 (replay movedBox).2 := history_replay (by decide +kernel)
  exact ⟨h, History.reliable h⟩

end Tree

end RemoteUi
