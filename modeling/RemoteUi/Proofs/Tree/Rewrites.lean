import RemoteUi.Proofs.Dict
import RemoteUi.Proofs.Tree.Attributes

/-!
# Rewriting elements

To set attributes and properties, or to remove attributes, is to overwrite some settings of an
element by others that do not depend on what was there.  What was overwritten once is not changed by
overwriting it in the same way again, however many settings there are and however often one of them
is set on the way.

* §1 dictionaries that are overwritten;
* §2 rewritings of an element;
* §3 rewritings of a tree, one for each node;
* §4 the edits that rewrite an element.
-/

namespace RemoteUi

open RemoteUi.Wire

/-! ## §1 Dictionaries -/

/-- A change of a dictionary sets some keys, erases some, and leaves the others, whatever the
dictionary was. -/
def Dict.Overwrites {α : Type} (f : Dict α → Dict α) : Prop :=
  ∃ put : String → Option (Option α), ∀ dict key,
    (f dict).get? key = (put key).getD (dict.get? key)

namespace Dict.Overwrites

variable {α : Type} {f g : Dict α → Dict α}

theorem id : Overwrites (id : Dict α → Dict α) := ⟨fun _ => none, fun _ _ => rfl⟩

theorem insert (key : String) (value : α) : Overwrites fun dict => dict.insert key value := by
  refine ⟨fun k => if key = k then some (some value) else none, fun dict k => ?_⟩
  by_cases h : key = k <;> simp [get?_insert, h]

theorem erase (key : String) : Overwrites fun dict : Dict α => dict.erase key := by
  refine ⟨fun k => if key = k then some none else none, fun dict k => ?_⟩
  by_cases h : key = k <;> simp [get?_erase, h]

/-- Of two changes the later one decides. -/
theorem comp (hf : Overwrites f) (hg : Overwrites g) : Overwrites fun dict => g (f dict) := by
  obtain ⟨put, hput⟩ := hf
  obtain ⟨put', hput'⟩ := hg
  refine ⟨fun key => (put' key).or (put key), fun dict key => ?_⟩
  rw [hput', hput]
  cases h : put' key <;> simp [h]

/-- **What was overwritten is not changed by overwriting it again.** -/
theorem apply_apply (hf : Overwrites f) (dict : Dict α) : f (f dict) = f dict := by
  obtain ⟨put, hput⟩ := hf
  apply ext_get?
  intro key
  rw [hput, hput]
  cases put key <;> rfl

end Dict.Overwrites

/-! ## §2 Elements -/

/-- A way to overwrite some attributes and properties of an element. -/
structure Rewriting where
  attributes : Dict String → Dict String
  properties : Dict String → Dict String
  overwrites_attributes : Dict.Overwrites attributes
  overwrites_properties : Dict.Overwrites properties

namespace Rewriting

/-- The element with its settings overwritten. -/
def apply (r : Rewriting) (e : Element) : Element :=
  { e with attributes := r.attributes e.attributes, properties := r.properties e.properties }

/-- No setting is overwritten. -/
def none : Rewriting := ⟨id, id, .id, .id⟩

/-- One rewriting after another. -/
def andThen (r s : Rewriting) : Rewriting where
  attributes dict := s.attributes (r.attributes dict)
  properties dict := s.properties (r.properties dict)
  overwrites_attributes := r.overwrites_attributes.comp s.overwrites_attributes
  overwrites_properties := r.overwrites_properties.comp s.overwrites_properties

/-- An attribute is set. -/
def setAttribute (key value : String) : Rewriting :=
  ⟨fun dict => dict.insert key value, id, .insert key value, .id⟩

/-- An attribute is removed. -/
def removeAttribute (key : String) : Rewriting :=
  ⟨fun dict => dict.erase key, id, .erase key, .id⟩

/-- A property is set. -/
def setProperty (key value : String) : Rewriting :=
  ⟨id, fun dict => dict.insert key value, .id, .insert key value⟩

@[simp] theorem apply_none (e : Element) : none.apply e = e := rfl

@[simp] theorem apply_andThen (r s : Rewriting) (e : Element) :
    (r.andThen s).apply e = s.apply (r.apply e) := rfl

@[simp] theorem kind_apply (r : Rewriting) (e : Element) : (r.apply e).kind = e.kind := rfl

/-- **To rewrite an element twice is to rewrite it once.** -/
theorem apply_apply (r : Rewriting) (e : Element) : r.apply (r.apply e) = r.apply e := by
  simp only [apply, r.overwrites_attributes.apply_apply, r.overwrites_properties.apply_apply]

end Rewriting

/-! ## §3 Trees -/

/-- The content of a node with its element rewritten; a text stays as it is. -/
def Content.rewrite (r : Rewriting) : Content → Content
  | .element e => .element (r.apply e)
  | .text content => .text content

/-- The rewriting of one node. -/
def Rewriting.at (r : Rewriting) (node : Handle) : Handle → Rewriting :=
  fun n => if node = n then r else .none

namespace Tree

/-- The tree with the element of each node rewritten. -/
def rewrite (tree : Tree) (rs : Handle → Rewriting) : Tree :=
  { tree with slots := tree.slots.mapIdx fun node slot =>
      { slot with content := slot.content.rewrite (rs node) } }

variable (tree : Tree) (rs rs' : Handle → Rewriting) (node : Handle)

theorem getElem?_rewrite : (tree.rewrite rs).slots[node]? = (tree.slots[node]?).map fun slot =>
    { slot with content := slot.content.rewrite (rs node) } :=
  Array.getElem?_mapIdx

/-- Trees with the same slots, ids and reports are equal. -/
theorem ext_slots {tree tree' : Tree}
    (hslots : ∀ node : Handle, tree.slots[node]? = tree'.slots[node]?)
    (hids : tree.ids = tree'.ids) (hselections : tree.selections = tree'.selections) :
    tree = tree' := by
  obtain ⟨slots, ids, selections⟩ := tree
  obtain ⟨slots', ids', selections'⟩ := tree'
  obtain rfl : slots = slots' := Array.ext_getElem? hslots
  cases hids
  cases hselections
  rfl

theorem element?_rewrite :
    (tree.rewrite rs).element? node = (tree.element? node).map (rs node).apply := by
  rw [element?_eq, element?_eq, getElem?_rewrite]
  rcases tree.slots[node]? with _ | ⟨_, _, _ | _⟩ <;> rfl

theorem rewrite_none : tree.rewrite (fun _ => .none) = tree := by
  refine ext_slots (fun node => ?_) rfl rfl
  rw [getElem?_rewrite]
  rcases tree.slots[node]? with _ | ⟨_, _, _ | _⟩ <;> rfl

theorem rewrite_rewrite :
    (tree.rewrite rs).rewrite rs' = tree.rewrite fun node => (rs node).andThen (rs' node) := by
  refine ext_slots (fun node => ?_) rfl rfl
  rw [getElem?_rewrite, getElem?_rewrite, getElem?_rewrite]
  rcases tree.slots[node]? with _ | ⟨_, _, _ | _⟩ <;> rfl

/-- **To rewrite a tree twice is to rewrite it once.** -/
theorem rewrite_twice : (tree.rewrite rs).rewrite rs = tree.rewrite rs := by
  refine ext_slots (fun node => ?_) rfl rfl
  rw [getElem?_rewrite, getElem?_rewrite]
  rcases tree.slots[node]? with _ | ⟨_, _, e | _⟩
  · rfl
  · simp only [Option.map_some, Content.rewrite, Rewriting.apply_apply]
  · rfl

theorem sameShape_rewrite : tree.SameShape (tree.rewrite rs) where
  size := Array.size_mapIdx
  ids := rfl
  parent? node := by
    unfold parent?
    rw [getElem?_rewrite]
    cases tree.slots[node]? <;> rfl
  children node := by
    rw [children_eq, children_eq, getElem?_rewrite]
    cases tree.slots[node]? <;> rfl
  kind? node := by
    unfold kind?
    rw [element?_rewrite]
    cases tree.element? node <;> rfl
  text? node := by
    rw [text?_eq, text?_eq, getElem?_rewrite]
    rcases tree.slots[node]? with _ | ⟨_, _, _ | _⟩ <;> rfl

/-! ## §4 Edits -/

variable {tree node}

/-- **To change an element by a rewriting is to rewrite the tree there.** -/
theorem modifyElement_rewriting (r : Rewriting) (h : (tree.element? node).isSome) :
    modifyElement node r.apply tree = .ok () (tree.rewrite (r.at node)) := by
  obtain ⟨e, he⟩ := Option.isSome_iff_exists.mp h
  have htree : tree.modifySlot node (fun slot => { slot with content := .element (r.apply e) }) =
      tree.rewrite (r.at node) := by
    refine ext_slots (fun n => ?_) rfl rfl
    rw [getElem?_modifySlot, getElem?_rewrite]
    by_cases hn : node = n
    · subst hn
      rw [element?_eq] at he
      obtain ⟨slot, hslot, hcontent⟩ := Option.bind_eq_some_iff.mp he
      cases hc : slot.content with
      | text content => simp [hc, Content.element?] at hcontent
      | element e' =>
        obtain rfl : e' = e := by simpa [hc, Content.element?] using hcontent
        simp [hslot, hc, Content.rewrite, Rewriting.at]
    · simp only [if_neg hn, Rewriting.at]
      rcases tree.slots[n]? with _ | ⟨_, _, _ | _⟩ <;> rfl
  rw [modifyElement_eq, he]
  exact congrArg _ htree

/-- A text is not changed. -/
theorem modifyElement_of_isNone {f : Element → Element} (h : tree.element? node = none) :
    modifyElement node f tree = .error .notAnElement tree := by
  rw [modifyElement_eq, h]

/-- **A property that is set while the element keeps quiet is not reported.** -/
theorem setProperty_of_isSuppressed (key value : String) (h : (tree.element? node).isSome)
    (hquiet : tree.isSuppressed node) : setProperty node key value tree =
      .ok () (tree.rewrite ((Rewriting.setProperty key value).at node)) := by
  have hmodify := modifyElement_rewriting (.setProperty key value) h
  change modifyElement node (fun e => { e with properties := e.properties.insert key value }) tree
    = _ at hmodify
  rw [setProperty_eq, hmodify]
  simp [hquiet]

/-- An element keeps quiet once it was told to. -/
theorem isSuppressed_rewrite (h : (tree.element? node).isSome) :
    (tree.rewrite ((Rewriting.setAttribute suppressKey "true").at node)).isSuppressed node := by
  obtain ⟨e, he⟩ := Option.isSome_iff_exists.mp h
  have helement := element?_rewrite tree ((Rewriting.setAttribute suppressKey "true").at node) node
  rw [he, Option.map_some] at helement
  simp only [isSuppressed, attribute?, helement, Option.bind_some]
  simp [Rewriting.at, Rewriting.apply, Rewriting.setAttribute]

end Tree

end RemoteUi
