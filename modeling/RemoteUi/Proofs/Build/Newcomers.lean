import RemoteUi.Client.Builder
import RemoteUi.Proofs.Tree.Edits

/-!
# Newcomers

The nodes that a reply adds to a tree, read off its lines alone.  A tree numbers its nodes in the
order in which they are created, so the newcomers of a reply and the size of the tree before it say
which handles there will be, what will be found at them, and which of them an id denotes.

* §1 newcomers, and those of a reply;
* §2 newcomers with their handles;
* §3 newcomers of different ids;
* §4 what an id denotes.
-/

namespace RemoteUi

open RemoteUi.Wire

/-! ## §1 Newcomers -/

/-- A node that a command adds to the tree. -/
inductive Newcomer where
  | element (id : NodeId) (tag : String) (parent : Option NodeId)
  | text (below : NodeId) (content : String)
  deriving DecidableEq, Repr

namespace Newcomer

/-- The id of the node below which a newcomer belongs; a missing parent word counts as the empty
id. -/
def below : Newcomer → NodeId
  | .element _ _ parent => parent.getD ""
  | .text below _ => below

/-- The id of a newcomer, unless it is a text. -/
def id? : Newcomer → Option NodeId
  | .element id _ _ => some id
  | .text _ _ => none

/-- Whether a newcomer waits for a popup. -/
def ownsPopup : Newcomer → Bool
  | .element _ tag _ => popupOwnerTags.contains (Vocabulary.resolve tag).2
  | .text _ _ => false

/-- Whether a newcomer is a popup that names an element as its parent. -/
def isPopupOf (owner : NodeId) : Newcomer → Bool
  | .element _ tag parent => (Vocabulary.resolve tag).2 = popupTag && parent = some owner
  | .text _ _ => false

theorem isPopupOf_iff {owner : NodeId} {nc : Newcomer} : nc.isPopupOf owner ↔
    ∃ id tag, nc = .element id tag (some owner) ∧ (Vocabulary.resolve tag).2 = popupTag := by
  cases nc with
  | element id tag parent =>
    simp only [isPopupOf, Bool.and_eq_true, decide_eq_true_iff, element.injEq]
    constructor
    · rintro ⟨htag, rfl⟩
      exact ⟨id, tag, ⟨rfl, rfl, rfl⟩, htag⟩
    · rintro ⟨_, _, ⟨rfl, rfl, rfl⟩, htag⟩
      exact ⟨htag, rfl⟩
  | text below content => simp [isPopupOf]

/-- A popup is the popup of one element. -/
theorem eq_of_isPopupOf {owner owner' : NodeId} {nc : Newcomer} (h : nc.isPopupOf owner)
    (h' : nc.isPopupOf owner') : owner = owner' := by
  obtain ⟨_, _, rfl, -⟩ := isPopupOf_iff.mp h
  obtain ⟨_, _, heq, -⟩ := isPopupOf_iff.mp h'
  exact Option.some.inj (Newcomer.element.inj heq).2.2

/-- A popup waits for no popup. -/
theorem ownsPopup_of_isPopupOf {owner : NodeId} {nc : Newcomer} (h : nc.isPopupOf owner) :
    nc.ownsPopup = false := by
  obtain ⟨id, tag, rfl, htag⟩ := isPopupOf_iff.mp h
  simp only [ownsPopup, htag]
  decide

end Newcomer

/-- The newcomer of a line. -/
def Wire.Line.newcomer? (line : Line) : Option Newcomer :=
  match line.command with
  | .create id tag parent => some (.element id tag parent)
  | .set id key value => if key = textKey then some (.text id (value.getD "")) else none
  | .window _ => none
  | .remove _ => none

/-- The newcomers of lines, in the order of the lines. -/
def newcomers (lines : List Line) : List Newcomer := lines.filterMap (·.newcomer?)

/-- The ids of new elements, in their order. -/
def newIds (news : List Newcomer) : List NodeId := news.filterMap (·.id?)

theorem newcomers_concat_of_some {lines : List Line} {line : Line} {nc : Newcomer}
    (h : line.newcomer? = some nc) : newcomers (lines ++ [line]) = newcomers lines ++ [nc] := by
  simp [newcomers, h]

theorem newcomers_concat_of_none {lines : List Line} {line : Line} (h : line.newcomer? = none) :
    newcomers (lines ++ [line]) = newcomers lines := by
  simp [newcomers, h]

theorem newcomers_isPrefix {lines more : List Line} (h : lines <+: more) :
    newcomers lines <+: newcomers more :=
  h.filterMap _

/-! ## §2 Handles -/

/-- Newcomers with their handles, in a tree that had `base` nodes before they came. -/
def born (base : Nat) (news : List Newcomer) : List (Newcomer × Handle) := news.zipIdx base

section Born

variable {base : Nat} {news more : List Newcomer} {nc nc' : Newcomer} {node : Handle}

theorem mem_born_iff : (nc, node) ∈ born base news ↔ ∃ i, news[i]? = some nc ∧ node = base + i := by
  constructor
  · intro h
    obtain ⟨hle, hget⟩ := List.mk_mem_zipIdx_iff_le_and_getElem?_sub.mp h
    exact ⟨_, hget, (Nat.add_sub_cancel' hle).symm⟩
  · rintro ⟨i, hget, rfl⟩
    exact List.mk_mem_zipIdx_iff_le_and_getElem?_sub.mpr
      ⟨Nat.le_add_right .., by rwa [Nat.add_sub_cancel_left]⟩

theorem born_append : born base (news ++ more) = born base news ++ born (base + news.length) more :=
  List.zipIdx_append

theorem mem_born_append_singleton : (nc, node) ∈ born base (news ++ [nc']) ↔
    (nc, node) ∈ born base news ∨ nc = nc' ∧ node = base + news.length := by
  rw [born_append, List.mem_append]
  simp [born]

/-- The handle of a newcomer lies beyond those of the older nodes. -/
theorem le_of_mem_born (h : (nc, node) ∈ born base news) : base ≤ node := by
  obtain ⟨i, -, rfl⟩ := mem_born_iff.mp h
  exact Nat.le_add_right ..

theorem lt_of_mem_born (h : (nc, node) ∈ born base news) : node < base + news.length := by
  obtain ⟨i, hget, rfl⟩ := mem_born_iff.mp h
  exact Nat.add_lt_add_left (List.getElem?_eq_some_iff.mp hget).1 base

/-- There is one newcomer to a handle. -/
theorem eq_of_mem_born (h : (nc, node) ∈ born base news) (h' : (nc', node) ∈ born base news) :
    nc = nc' := by
  obtain ⟨i, hget, rfl⟩ := mem_born_iff.mp h
  obtain ⟨j, hget', heq⟩ := mem_born_iff.mp h'
  obtain rfl := Nat.add_left_cancel heq
  exact Option.some.inj (hget.symm.trans hget')

/-- Every handle beyond those of the older nodes is the handle of a newcomer. -/
theorem exists_mem_born (hle : base ≤ node) (hlt : node < base + news.length) :
    ∃ nc, (nc, node) ∈ born base news := by
  obtain ⟨i, rfl⟩ := Nat.exists_eq_add_of_le hle
  have hi : i < news.length := Nat.lt_of_add_lt_add_left hlt
  exact ⟨news[i], mem_born_iff.mpr ⟨i, List.getElem?_eq_getElem hi, rfl⟩⟩

theorem mem_of_mem_born (h : (nc, node) ∈ born base news) : nc ∈ news := by
  obtain ⟨i, hget, -⟩ := mem_born_iff.mp h
  exact List.mem_of_getElem? hget

theorem exists_of_mem (base : Nat) (h : nc ∈ news) : ∃ node, (nc, node) ∈ born base news := by
  obtain ⟨i, hi, hget⟩ := List.getElem_of_mem h
  exact ⟨base + i, mem_born_iff.mpr ⟨i, by rw [List.getElem?_eq_getElem hi, hget], rfl⟩⟩

theorem mem_born_of_isPrefix (hmore : news <+: more) (h : (nc, node) ∈ born base news) :
    (nc, node) ∈ born base more := by
  obtain ⟨rest, rfl⟩ := hmore
  rw [born_append]
  exact List.mem_append_left _ h

/-- The handles of newcomers ascend. -/
theorem pairwise_born (base : Nat) (news : List Newcomer) :
    (born base news).Pairwise fun a b => a.2 < b.2 := by
  -- The handles alone are a range.
  rw [← List.pairwise_map (R := (· < ·)), born, List.zipIdx_map_snd]
  exact List.pairwise_lt_range'

end Born

/-! ## §3 Different ids -/

section Ids

variable {base : Nat} {news : List Newcomer} {nc nc' : Newcomer} {node node' : Handle} {id : NodeId}

theorem mem_newIds_iff : id ∈ newIds news ↔ ∃ tag parent, Newcomer.element id tag parent ∈ news := by
  simp only [newIds, List.mem_filterMap]
  constructor
  · rintro ⟨nc, hmem, hid⟩
    cases nc with
    | element id' tag parent =>
      cases hid
      exact ⟨tag, parent, hmem⟩
    | text below content => cases hid
  · rintro ⟨tag, parent, hmem⟩
    exact ⟨_, hmem, rfl⟩

theorem mem_newIds_of_mem_born (h : (nc, node) ∈ born base news) (hid : nc.id? = some id) :
    id ∈ newIds news :=
  List.mem_filterMap.mpr ⟨nc, mem_of_mem_born h, hid⟩

/-- **Of newcomers with different ids an id names one.** -/
theorem node_eq_of_id? (hnodup : (newIds news).Nodup) (h : (nc, node) ∈ born base news)
    (hid : nc.id? = some id) (h' : (nc', node') ∈ born base news) (hid' : nc'.id? = some id) :
    node = node' := by
  obtain ⟨i, hget, rfl⟩ := mem_born_iff.mp h
  obtain ⟨j, hget', rfl⟩ := mem_born_iff.mp h'
  obtain ⟨hi, hget⟩ := List.getElem?_eq_some_iff.mp hget
  obtain ⟨hj, hget'⟩ := List.getElem?_eq_some_iff.mp hget'
  -- Of two positions one would come first, with the same id as the other.
  have hpair := List.pairwise_iff_getElem.mp (List.pairwise_filterMap.mp hnodup)
  rcases Nat.lt_trichotomy i j with hlt | rfl | hlt
  · exact absurd rfl (hpair _ _ hi hj hlt id (by rw [hget, hid]) id (by rw [hget', hid']))
  · rfl
  · exact absurd rfl (hpair _ _ hj hi hlt id (by rw [hget', hid']) id (by rw [hget, hid]))

theorem newIds_subset {more : List Newcomer} (hmore : news <+: more) (hid : id ∈ newIds news) :
    id ∈ newIds more :=
  (hmore.filterMap _).subset hid

theorem nodup_newIds_of_isPrefix {more : List Newcomer} (hmore : news <+: more)
    (h : (newIds more).Nodup) : (newIds news).Nodup :=
  h.sublist (hmore.sublist.filterMap _)

end Ids

/-! ## §4 What ids denote -/

/-- What a newcomer comes to be in a tree. -/
def Tree.Shows (tree : Tree) (node : Handle) : Newcomer → Prop
  | .element id tag _ => tree.kind? node = some (some id, Vocabulary.resolve tag)
  | .text _ content => tree.text? node = some content

theorem Tree.Shows.congr {tree tree' : Tree} {node : Handle} {nc : Newcomer}
    (h : tree.Shows node nc) (hkind : tree'.kind? node = tree.kind? node)
    (htext : tree'.text? node = tree.text? node) : tree'.Shows node nc := by
  cases nc with
  | element id tag parent => exact hkind.trans h
  | text below content => exact htext.trans h

/-- The handle of the newcomer with an id. -/
def newcomerWithId? (base : Nat) (news : List Newcomer) (id : NodeId) : Option Handle :=
  ((born base news).find? fun b => b.1.id? = some id).map (·.2)

/-- The node that an id denotes in the course of a reply: the root for the window's id, else the
newcomer with this id, else the element found under it before. -/
def denotation (before : Tree) (window : Option NodeId) (news : List Newcomer) (id : NodeId) :
    Option Handle :=
  if window = some id then some Tree.root
  else (newcomerWithId? before.slots.size news id).or (before.lookup? id)

section Denotation

variable {base : Nat} {news : List Newcomer} {node : Handle} {id : NodeId}

theorem newcomerWithId?_of_mem_born {nc : Newcomer} (hnodup : (newIds news).Nodup)
    (h : (nc, node) ∈ born base news) (hid : nc.id? = some id) :
    newcomerWithId? base news id = some node := by
  unfold newcomerWithId?
  cases hfind : (born base news).find? fun b => b.1.id? = some id with
  | none =>
    have := List.find?_eq_none.mp hfind _ h
    simp [hid] at this
  | some b =>
    have hb : b.1.id? = some id := by simpa using List.find?_some hfind
    rw [Option.map_some, node_eq_of_id? hnodup (List.mem_of_find?_eq_some hfind) hb h hid]

theorem newcomerWithId?_eq_none (h : id ∉ newIds news) : newcomerWithId? base news id = none := by
  unfold newcomerWithId?
  rw [Option.map_eq_none_iff, List.find?_eq_none]
  rintro ⟨nc, n⟩ hmem hid
  exact h (mem_newIds_of_mem_born hmem (by simpa using hid))

end Denotation

end RemoteUi
