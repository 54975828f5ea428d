import RemoteUi.Proofs.Tree.History

/-!
# Selections that nobody hears of

A change of the selected entry is reported unless its element keeps quiet, and it is a change of a
property, not of an attribute.  Made between two edits that silence the element and let it speak
again, it goes unreported, and the next one is reported.

* §1 changes that nobody hears of;
* §2 the change of a selected entry between two edits.
-/

namespace RemoteUi.Tree

variable {tree tree' tree'' : Tree} {node : Handle} {value : String}

/-! ## §1 Unheard changes -/

/-- No selection was reported, and no element has come by another attribute for its selected entry. -/
structure Unheard (tree tree' : Tree) : Prop where
  selections : tree'.selections = tree.selections
  attribute? : ∀ node,
    tree'.attribute? node selectedIndexKey = tree.attribute? node selectedIndexKey

theorem Unheard.refl (tree : Tree) : tree.Unheard tree := ⟨rfl, fun _ => rfl⟩

theorem Unheard.trans (h : tree.Unheard tree') (h' : tree'.Unheard tree'') :
    tree.Unheard tree'' :=
  ⟨h'.selections.trans h.selections, fun n => (h'.attribute? n).trans (h.attribute? n)⟩

/-- Nobody hears of a change that leaves all elements as they are. -/
theorem Unheard.of_element? (hselections : tree'.selections = tree.selections)
    (h : ∀ node, tree'.element? node = tree.element? node) : tree.Unheard tree' :=
  ⟨hselections, fun n => by rw [Tree.attribute?, Tree.attribute?, h]⟩

/-- A new node has no attributes yet. -/
theorem unheard_push {content : Content}
    (h : content.element?.bind (·.attributes.get? selectedIndexKey) = none) :
    tree.Unheard (tree.push content) := by
  refine ⟨rfl, fun n => ?_⟩
  unfold attribute?
  rw [element?_push]
  split
  · next hn =>
    have hnone : tree.element? tree.slots.size = none := by
      rw [element?_eq, Array.getElem?_eq_none (Nat.le_refl _), Option.bind_none]
    rw [hn, hnone, h, Option.bind_none]
  · rfl

theorem unheard_modifyElement {f : Element → Element}
    (h : modifyElement node f tree = .ok () tree')
    (hf : ∀ e, (f e).attributes.get? selectedIndexKey = e.attributes.get? selectedIndexKey) :
    tree.Unheard tree' := by
  refine ⟨selections_modifyElement h, fun n => ?_⟩
  unfold attribute?
  rw [element?_modifyElement h]
  split
  · cases tree.element? n with
    | none => rfl
    | some e => exact hf e
  · rfl

theorem unheard_setAttribute {key : String} (hkey : key ≠ selectedIndexKey)
    (h : setAttribute node key value tree = .ok () tree') : tree.Unheard tree' := by
  refine unheard_modifyElement h fun e => ?_
  rw [Dict.get?_insert, if_neg hkey]

/-! ## §2 The selected entry -/

/-- An element presents an entry as selected, in a property of its own, and it does not keep quiet. -/
def Presents (tree : Tree) (node : Handle) (value : String) : Prop :=
  ∃ e, tree.element? node = some e ∧ e.properties.get? selectedIndexKey = some value ∧
    e.attributes.get? suppressKey = some "false"

theorem Presents.of_element? (h : tree.Presents node value)
    (helement : tree'.element? node = tree.element? node) : tree'.Presents node value := by
  unfold Presents
  rw [helement]
  exact h

/-- An edit that touches neither properties nor attributes leaves the selected entries as they are. -/
theorem Presents.modifyElement {other : Handle} {f : Element → Element}
    (h : tree.Presents node value) (hmodify : modifyElement other f tree = .ok () tree')
    (hf : ∀ e, (f e).properties = e.properties ∧ (f e).attributes = e.attributes) :
    tree'.Presents node value := by
  obtain ⟨e, he, hproperty, hattribute⟩ := h
  have helement := element?_modifyElement hmodify node
  rw [he] at helement
  split at helement
  · exact ⟨f e, helement, by rw [(hf e).1, hproperty], by rw [(hf e).2, hattribute]⟩
  · exact ⟨e, helement, hproperty, hattribute⟩

/-- **The next change of the selected entry is reported.** -/
theorem Presents.reported (h : tree.Presents node value) (next : String) :
    ∃ tree', setProperty node selectedIndexKey next tree = .ok () tree' ∧
      tree'.selections = tree.selections ++ [node] := by
  obtain ⟨e, he, -, hattribute⟩ := h
  obtain ⟨t, ht⟩ := exists_modifyElement
    (fun e => { e with properties := e.properties.insert selectedIndexKey next })
    (Option.isSome_of_eq_some he)
  have hloud : tree.isSuppressed node = false := by
    simp [isSuppressed, attribute?, he, hattribute]
  refine ⟨{ t with selections := t.selections ++ [node] }, ?_, ?_⟩
  · rw [setProperty_eq, ht]
    simp [hloud]
  · exact congrArg (· ++ [node]) (selections_modifyElement ht)

theorem isSuppressed_of_setAttribute
    (h : setAttribute node suppressKey "true" tree = .ok () tree') : tree'.isSuppressed node := by
  rw [isSuppressed, attribute?_setAttribute h, if_pos ⟨rfl, rfl⟩]
  rfl

/-- While an element keeps quiet, a change of its properties is no more than that. -/
theorem modifyElement_of_setProperty {key : String} (hquiet : tree.isSuppressed node)
    (h : setProperty node key value tree = .ok () tree') :
    modifyElement node (fun e => { e with properties := e.properties.insert key value }) tree =
      .ok () tree' := by
  rw [setProperty_eq] at h
  split at h
  · cases h
  · next u t ht =>
    rw [if_neg (by simp [hquiet])] at h
    cases h
    exact ht

theorem unheard_setProperty {key : String} (hquiet : tree.isSuppressed node)
    (h : setProperty node key value tree = .ok () tree') : tree.Unheard tree' :=
  unheard_modifyElement (modifyElement_of_setProperty hquiet h) fun _ => rfl

section Bracket

variable {t₁ t₂ : Tree}
  (hsilence : setAttribute node suppressKey "true" tree = .ok () t₁)
  (hset : setProperty node selectedIndexKey value t₁ = .ok () t₂)
  (hspeak : setAttribute node suppressKey "false" t₂ = .ok () tree')

include hsilence hset hspeak

/-- **An entry that is selected between two edits is presented after them.** -/
theorem presents_of_bracket : tree'.Presents node value := by
  obtain ⟨e, he⟩ := exists_element?_of_modifyElement hsilence
  have hset := modifyElement_of_setProperty (isSuppressed_of_setAttribute hsilence) hset
  have helement := element?_modifyElement hspeak node
  rw [if_pos rfl, element?_modifyElement hset, if_pos rfl, element?_modifyElement hsilence,
    if_pos rfl, he] at helement
  exact ⟨_, helement, by simp, by simp⟩

theorem element?_of_bracket {other : Handle} (hne : node ≠ other) :
    tree'.element? other = tree.element? other := by
  have hset := modifyElement_of_setProperty (isSuppressed_of_setAttribute hsilence) hset
  rw [element?_modifyElement hspeak, if_neg hne, element?_modifyElement hset, if_neg hne,
    element?_modifyElement hsilence, if_neg hne]

theorem sameShape_of_bracket : tree.SameShape tree' :=
  ((sameShape_setAttribute hsilence).trans (sameShape_setProperty hset)).trans
    (sameShape_setAttribute hspeak)

end Bracket

end RemoteUi.Tree
