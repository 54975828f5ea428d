import RemoteUi.Proofs.Tree.Edits

/-!
# Subtrees that were taken out

A node that was removed takes all that is below it along.  None of these nodes is attached again by
edits of other nodes, whatever these are and wherever they go, even into the subtree: what was below
the removed node stays below it.  Where nothing is put in and no element is changed, the slots stay
as they were.

* §1 the relation between a tree after a removal and a later one;
* §2 edits of other nodes.
-/

namespace RemoteUi

open RemoteUi.Wire

namespace Tree

/-! ## §1 Sunk subtrees -/

/-- `tree` has come from `gone`, where `top` has just been removed, by edits that left what is below
`top` in its place and did not come to the nodes that are `still`. -/
structure Sunk (gone : Tree) (top : Handle) (still : Handle → Prop) (tree : Tree) : Prop where
  lt : ∀ node, gone.Upward node top → node < tree.slots.size
  root : ¬ gone.Upward root top
  /-- What was below the removed node is below it. -/
  parent? : ∀ node parent, gone.Upward node top → tree.parent? node = some parent →
    gone.Upward parent top
  /-- Below the nodes that are still there is nothing new. -/
  below : ∀ node parent, gone.Upward parent top → still parent →
    tree.parent? node = some parent → gone.Upward node top
  slots : ∀ node, gone.Upward node top → still node → tree.slots[node]? = gone.slots[node]?
  ids : ∀ id node, gone.Upward node top → gone.ids.get? id = some node →
    tree.ids.get? id = some node

variable {gone tree tree' : Tree} {top node parent : Handle} {still : Handle → Prop} {id : NodeId}

/-- What was below a node is below it when the node is taken out. -/
theorem upward_detach_iff : (tree.detach top).Upward node top ↔ tree.Upward node top := by
  constructor
  · intro hup
    induction hup using Relation.ReflTransGen.head_induction_on with
    | refl => exact .refl _
    | head hp _ ih =>
      rw [parent?_detach] at hp
      split at hp
      · cases hp
      · exact .head hp ih
  · intro hup
    induction hup using Relation.ReflTransGen.head_induction_on with
    | refl => exact .refl _
    | @head child parent hp _ ih =>
      by_cases hc : child = top
      · rw [hc]
        exact .refl _
      · refine .head ?_ ih
        rw [parent?_detach, if_neg hc]
        exact hp

namespace Sunk

/-- A tree from which a node has just been removed. -/
theorem refl (ha : gone.Anchored) (htop : gone.parent? top = none) (hlt : top < gone.slots.size)
    (hne : top ≠ Tree.root) : Sunk gone top still gone where
  lt node hup := by
    rcases hup.cases_head with rfl | ⟨p, hp, -⟩
    · exact hlt
    · exact lt_of_parent? hp
  root hup := hne ((upward_iff_of_parent?_eq_none ha.root_top).mp hup).symm
  parent? node parent hup hp := by
    rcases (upward_iff_of_parent? hp).mp hup with rfl | hup
    · rw [htop] at hp
      cases hp
    · exact hup
  below node parent hup _ hp := .head hp hup
  slots _ _ _ := rfl
  ids _ _ _ hget := hget

theorem upward (h : Sunk gone top still tree) (hnode : gone.Upward node top) {other : Handle}
    (hup : tree.Upward node other) : gone.Upward other top := by
  induction hup with
  | refl => exact hnode
  | tail _ hp ih => exact h.parent? _ _ ih hp

/-- **What was taken out is not attached.** -/
theorem not_isAttached (h : Sunk gone top still tree) (hnode : gone.Upward node top) :
    ¬ tree.isAttached node := by
  intro hatt
  -- A lineage that ends at the root would come to it through the subtree.
  have hlast : (tree.lineage node).getLast? = some Tree.root := by simpa [isAttached] using hatt
  have hup := WellFormed.upward_of_mem_lineageUpTo (List.mem_of_getLast? hlast)
  exact h.root (h.upward hnode hup)

/-- What was taken out is found under no id. -/
theorem lookup?_eq_none (h : Sunk gone top still tree) (hnode : gone.Upward node top)
    (hget : gone.ids.get? id = some node) : tree.lookup? id = none := by
  rw [lookup?_eq_none_iff]
  intro n hn
  rw [h.ids id node hnode hget] at hn
  cases hn
  exact h.not_isAttached hnode

theorem not_upward_of_lookup? (h : Sunk gone top still tree) (hl : tree.lookup? id = some node) :
    ¬ gone.Upward node top :=
  fun hup => h.not_isAttached hup (lookup?_eq_some_iff.mp hl).2

/-! ## §2 Edits of other nodes -/

theorem push (h : Sunk gone top still tree) (content : Content) :
    Sunk gone top still (tree.push content) where
  lt node hup := by
    rw [size_push]
    exact Nat.lt_succ_of_lt (h.lt node hup)
  root := h.root
  parent? node parent hup hp := h.parent? node parent hup (by rwa [parent?_push] at hp)
  below node parent hup hstill hp := h.below node parent hup hstill (by rwa [parent?_push] at hp)
  slots node hup hstill := by
    rw [← h.slots node hup hstill]
    show (tree.slots.push _)[node]? = tree.slots[node]?
    rw [Array.getElem?_push, if_neg (Nat.ne_of_lt (h.lt node hup))]
  ids := h.ids

/-- An element is created under an id that none of the nodes was found under. -/
theorem withElement (h : Sunk gone top still tree) (vocabulary : Vocabulary) (tag : String)
    (hid : ∀ node, gone.Upward node top → gone.ids.get? id ≠ some node) :
    Sunk gone top still (tree.withElement vocabulary tag id) where
  lt := (h.push _).lt
  root := h.root
  parent? := (h.push (.element { vocabulary, tag, id := some id })).parent?
  below := (h.push (.element { vocabulary, tag, id := some id })).below
  slots := (h.push (.element { vocabulary, tag, id := some id })).slots
  ids id' node hup hget := by
    rw [ids_withElement, Dict.get?_insert, if_neg]
    · exact h.ids id' node hup hget
    · rintro rfl
      exact hid node hup hget

/-- A slot that is not still is changed, but for its parent. -/
theorem modifySlot (h : Sunk gone top still tree) {f : Slot → Slot}
    (hf : ∀ slot, (f slot).parent = slot.parent) (hnode : gone.Upward node top → ¬ still node) :
    Sunk gone top still (tree.modifySlot node f) where
  lt n hup := by
    rw [size_modifySlot]
    exact h.lt n hup
  root := h.root
  parent? n p hup hp := h.parent? n p hup (by rwa [parent?_modifySlot_of_eq hf] at hp)
  below n p hup hstill hp := h.below n p hup hstill (by rwa [parent?_modifySlot_of_eq hf] at hp)
  slots n hup hstill := by
    have hne : node ≠ n := by
      rintro rfl
      exact hnode hup hstill
    rw [getElem?_modifySlot, if_neg hne, h.slots n hup hstill]
  ids := h.ids

/-- Another node comes below a node that is not still, or below none. -/
theorem place (h : Sunk gone top still tree) (word : Option Handle)
    (hnode : ¬ gone.Upward node top)
    (hword : ∀ parent, word = some parent → gone.Upward parent top → ¬ still parent) :
    Sunk gone top still (tree.modifySlot node fun slot => { slot with parent := word }) where
  lt n hup := by
    rw [size_modifySlot]
    exact h.lt n hup
  root := h.root
  parent? n p hup hp := by
    have hne : node ≠ n := by
      rintro rfl
      exact hnode hup
    refine h.parent? n p hup ?_
    simpa only [Tree.parent?, getElem?_modifySlot, if_neg hne] using hp
  below n p hup hstill hp := by
    by_cases hn : node = n
    · subst hn
      -- Its new parent is not still.
      have hnew : word = some p := by
        simp only [Tree.parent?, getElem?_modifySlot, if_true] at hp
        cases hs : tree.slots[node]? with
        | none => simp [hs] at hp
        | some slot => simpa [hs] using hp
      exact absurd hstill (hword p hnew hup)
    · refine h.below n p hup hstill ?_
      simpa only [Tree.parent?, getElem?_modifySlot, if_neg hn] using hp
  slots n hup hstill := by
    have hne : node ≠ n := by
      rintro rfl
      exact hnode hup
    rw [getElem?_modifySlot, if_neg hne, h.slots n hup hstill]
  ids := h.ids

theorem detach (h : Sunk gone top still tree) (hnode : ¬ gone.Upward node top) :
    Sunk gone top still (tree.detach node) := by
  unfold Tree.detach
  cases hp : tree.parent? node with
  | none => exact h
  | some parent =>
    refine (h.place none hnode nofun).modifySlot (fun _ => rfl) fun hup hstill => ?_
    exact hnode (h.below node parent hup hstill hp)

theorem attachLast (h : Sunk gone top still tree) (hnode : ¬ gone.Upward node top)
    (hparent : gone.Upward parent top → ¬ still parent) :
    Sunk gone top still (tree.attachLast parent node) := by
  refine (h.place (some parent) hnode ?_).modifySlot (fun _ => rfl) hparent
  rintro _ ⟨⟩
  exact hparent

theorem append (h : Sunk gone top still tree) (hnode : ¬ gone.Upward node top)
    (hparent : gone.Upward parent top → ¬ still parent)
    (heq : Tree.append parent node tree = .ok () tree') : Sunk gone top still tree' := by
  obtain ⟨-, -, rfl⟩ := eq_of_append heq
  exact (h.detach hnode).attachLast hnode hparent

/-- An element is changed that is not still. -/
theorem modifyElement (h : Sunk gone top still tree) {f : Element → Element}
    (hnode : gone.Upward node top → ¬ still node)
    (heq : Tree.modifyElement node f tree = .ok () tree') : Sunk gone top still tree' := by
  rw [modifyElement_eq] at heq
  split at heq
  · cases heq
  · cases heq
    exact h.modifySlot (fun _ => rfl) hnode

theorem invoke (h : Sunk gone top still tree) {operation : String}
    (hnode : gone.Upward node top → ¬ still node)
    (heq : Tree.invoke node operation tree = .ok () tree') : Sunk gone top still tree' := by
  unfold Tree.invoke at heq
  split at heq
  · exact h.modifyElement hnode heq
  · cases heq

theorem setProperty (h : Sunk gone top still tree) {key value : String}
    (hnode : gone.Upward node top → ¬ still node)
    (heq : Tree.setProperty node key value tree = .ok () tree') : Sunk gone top still tree' := by
  rw [setProperty_eq] at heq
  split at heq
  · cases heq
  · next u t hm =>
    have ht : Sunk gone top still t := h.modifyElement hnode hm
    cases heq
    split
    · exact ⟨ht.lt, ht.root, ht.parent?, ht.below, ht.slots, ht.ids⟩
    · exact ht

end Sunk

end Tree

end RemoteUi
