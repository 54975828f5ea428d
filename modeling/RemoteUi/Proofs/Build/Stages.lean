import RemoteUi.Proofs.Build.Newcomers
import RemoteUi.Proofs.Build.Steps
import RemoteUi.Proofs.Tree.Descent

/-!
# The stages of a pass

A pass is described by what it does to the tree and to the elements without a place, however the
functions of the builder share the work.  A *stage* is a site together with the elements that wait
for a place, held back or in hand, and the newcomers so far.  There are eight kinds of steps from
one stage to the next.

* §1 what a step does to a site;
* §2 stages, and the nodes that bear an id at a stage;
* §3 the steps, the stages that they lead to, and how a fault ends them;
* §4 the elements that go on to wait when one finds its place.
-/

namespace RemoteUi

open RemoteUi.Wire

/-! ## §1 Sites -/

/-- Where a call puts a node: the new parent, the node, and the children noted with it. -/
def Call.placement? : Call → Option (Handle × Handle × List Handle)
  | .append parent node carried => some (parent, node, carried)
  | _ => none

namespace Site

/-- The tree of the host. -/
def tree (site : Site) : Tree := site.host.tree

/-- The site after a new element was created and remembered. -/
def bring (site : Site) (id : NodeId) (kind : Vocabulary × String) : Site where
  builder := { site.builder with
    created := site.builder.created.insert id site.tree.slots.size }
  host := { site.host.noted (.createElement kind.1 kind.2 id) with
    tree := site.tree.withElement kind.1 kind.2 id }

/-- The site after a text was created. -/
def write (site : Site) (content : String) : Site :=
  { site with host := { site.host.noted (.createText content) with
      tree := site.tree.push (.text content) } }

/-- The site after a node without a place was put below another one. -/
def attach (site : Site) (parent node : Handle) : Site :=
  { site with host := { site.host.noted (.append parent node (site.tree.children node)) with
      tree := site.tree.attachLast parent node } }

/-- The site after an element was removed and forgotten. -/
def cut (site : Site) (id : NodeId) (parent node : Handle) : Site where
  builder := { site.builder with created := site.builder.created.erase id }
  host := { site.host.noted (.remove parent node) with tree := site.tree.detach node }

@[simp] theorem tree_bring (site : Site) (id : NodeId) (kind : Vocabulary × String) :
    (site.bring id kind).tree = site.tree.withElement kind.1 kind.2 id := rfl

@[simp] theorem tree_write (site : Site) (content : String) :
    (site.write content).tree = site.tree.push (.text content) := rfl

@[simp] theorem tree_attach (site : Site) (parent node : Handle) :
    (site.attach parent node).tree = site.tree.attachLast parent node := rfl

theorem created_bring (site : Site) (id : NodeId) (kind : Vocabulary × String) :
    (site.bring id kind).builder.created = site.builder.created.insert id site.tree.slots.size := rfl

theorem created_cut (site : Site) (id : NodeId) (parent node : Handle) :
    (site.cut id parent node).builder.created = site.builder.created.erase id := rfl

@[simp] theorem tree_cut (site : Site) (id : NodeId) (parent node : Handle) :
    (site.cut id parent node).tree = site.tree.detach node := rfl

/-- A new text has no place yet. -/
theorem loose_write {site : Site} (ha : site.tree.Anchored) (content : String) :
    (site.write content).tree.Loose site.tree.slots.size where
  lt := by simp
  ne_root := Nat.ne_of_gt ha.root_lt
  parent? := by
    rw [tree_write, Tree.parent?_push]
    exact Tree.parent?_eq_none_of_le (Nat.le_refl _)

/-- A new text is no element, so a place for it is below an older node. -/
theorem isSome_element?_of_open_write {site : Site} {content : String} {node : Handle}
    (h : (site.write content).tree.Open node site.tree.slots.size) :
    (site.tree.element? node).isSome := by
  have helement := h.element
  rw [tree_write, Tree.element?_push] at helement
  split at helement
  · cases helement
  · exact helement

end Site

/-! ## §2 Stages -/

/-- How far a pass has come. -/
structure Stage where
  site : Site
  /-- The new elements without a place: those held back and those in hand. -/
  waiting : List Held
  /-- The newcomers so far. -/
  news : List Newcomer

namespace Stage

/-- The tree at a stage. -/
abbrev tree (s : Stage) : Tree := s.site.tree

/-- The newcomers so far, with their handles. -/
def born (start : Site) (s : Stage) : List (Newcomer × Handle) :=
  RemoteUi.born start.tree.slots.size s.news

/-- No element waits for a parent that is there. -/
def Clear (s : Stage) : Prop :=
  ∀ e ∈ s.waiting, e.awaits = .parent → s.site.resolveParent? e.parent = none

end Stage

/-- A node bears an id in a pass that began at `start`.  What an id is borne by at one stage, it is
borne by at all later ones, whether the node is still there or not. -/
inductive Bears (start : Site) (s : Stage) (id : NodeId) : Handle → Prop where
  | window (h : s.site.builder.window = some id) : Bears start s id Tree.root
  | newcomer {nc : Newcomer} {node : Handle} (h : (nc, node) ∈ s.born start)
      (hid : nc.id? = some id) : Bears start s id node
  | before {node : Handle} (h : start.builder.window ≠ some id)
      (hl : start.tree.lookup? id = some node) : Bears start s id node

/-- A builder between two passes, with the tree that it works on. -/
structure Standing (builder : Builder) (tree : Tree) : Prop where
  anchored : tree.Anchored
  /-- Before the root has a name, nothing can come below it. -/
  bare : builder.window = none → tree.children Tree.root = []

/-! ## §3 Steps -/

section Steps

variable (start : Site) (lines : List Line) (s : Stage)

/-- An element may be put below a node: it waits for nothing else, and the node is its parent. -/
structure Fit (e : Held) (parent : Handle) : Prop where
  mem : e ∈ s.waiting
  bears : Bears start s (e.parent.getD "") parent
  /-- A popup is not waited for any longer when all commands are done. -/
  ready : e.awaits = .parent ∨ s.news = newcomers lines ∧ s.Clear

/-- A popup may be put into the element that waits for it. -/
structure Entry (owner popup : Held) : Prop where
  mem_owner : owner ∈ s.waiting
  mem_popup : popup ∈ s.waiting
  awaits : owner.awaits = .popup
  parent : popup.parent = some owner.id
  tag : ∃ nc, (nc, popup.node) ∈ s.born start ∧ nc.id? = some popup.id ∧ nc.isPopupOf owner.id
  /-- Before the popup came, no element waited for a parent that was there. -/
  clear : ∀ e ∈ s.waiting, e.awaits = .parent → e = popup ∨ e.parent = some popup.id ∨
    s.site.resolveParent? e.parent = none

/-- The element that a new element is, as it begins to wait. -/
def Held.ofNew (line : Line) (id : NodeId) (tag : String) (parent : Option NodeId)
    (node : Handle) : Held where
  id := id
  node := node
  parent := parent
  awaits := if popupOwnerTags.contains (Vocabulary.resolve tag).2 then .popup else .parent
  origin := line

/-- The steps of a pass over `lines` that began at `start`. -/
inductive Step : Stage → Prop where
  /-- An edit that leaves all nodes in their places. -/
  | quiet (host : Host) (call : Call) (hshape : s.tree.SameShape host.tree)
      (hcall : call.placement? = none) (hjournal : host.journal = s.site.host.journal ++ [call]) :
      Step { s with site := { s.site with host } }
  /-- A change of the builder's books that says nothing about nodes. -/
  | jot (builder : Builder) (hwindow : builder.window = s.site.builder.window)
      (hcreated : builder.created = s.site.builder.created) :
      Step { s with site := { s.site with builder } }
  /-- The root gets its name. -/
  | name (id : NodeId) (hwindow : s.site.builder.window = none)
      (hline : ∃ line ∈ lines, line.command = .window id) :
      Step { s with site := { s.site with
        builder := { s.site.builder with window := some id } } }
  /-- An element is created. -/
  | bring (line : Line) (id : NodeId) (tag : String) (parent : Option NodeId)
      (hnews : s.news ++ [.element id tag parent] <+: newcomers lines) :
      Step ⟨s.site.bring id (Vocabulary.resolve tag),
        s.waiting ++ [Held.ofNew line id tag parent s.tree.slots.size],
        s.news ++ [.element id tag parent]⟩
  /-- An element finds its place.  Of elements that wait for one parent it is the first. -/
  | place (before after : List Held) (e : Held) (parent : Handle)
      (hwaiting : s.waiting = before ++ e :: after) (hfit : Fit start lines s e parent)
      (hfirst : ∀ e' ∈ before, e'.awaits = .parent → e'.parent ≠ e.parent)
      (hopen : s.tree.Open parent e.node) :
      Step ⟨s.site.attach parent e.node, before ++ after, s.news⟩
  /-- A popup finds its place, and its owner waits for nothing but a parent from now on. -/
  | enter (before after : List Held) (owner popup : Held)
      (hwaiting : s.waiting = before ++ owner :: after ++ [popup])
      (hentry : Entry start s owner popup) (hopen : s.tree.Open owner.node popup.node) :
      Step ⟨s.site.attach owner.node popup.node,
        before ++ after ++ [{ owner with awaits := .parent }], s.news⟩
  /-- A text is created and finds its place. -/
  | text (id : NodeId) (content : String) (parent : Handle)
      (hnews : s.news ++ [.text id content] <+: newcomers lines) (hclear : s.Clear)
      (hresolve : s.site.resolve? id = some parent) (hopen : (s.tree.element? parent).isSome) :
      Step ⟨(s.site.write content).attach parent s.tree.slots.size, s.waiting,
        s.news ++ [.text id content]⟩
  /-- An attached element is removed. -/
  | remove (id : NodeId) (parent node : Handle)
      (hline : ∃ line ∈ lines, line.command = .remove id)
      (hlookup : s.tree.lookup? id = some node) (hparent : s.tree.parent? node = some parent) :
      Step { s with site := s.site.cut id parent node }

/-- The stages of a pass. -/
inductive Reached : Stage → Prop where
  | start : Reached ⟨Build.siteAfter Build.reset start, [], []⟩
  | step {s s' : Stage} (h : Reached s) (hstep : Step start lines s s') : Reached s'

/-- The hosts that a fault at a stage may leave: as they were, or with an edit noted that was
refused. -/
inductive Slip : Host → Prop where
  | still : Slip s.site.host
  | refused (call : Call) (hcall : call.placement? = none) : Slip (s.site.host.noted call)
  | place (e : Held) (parent : Handle) (hfit : Fit start lines s e parent) :
      Slip (s.site.host.noted (.append parent e.node (s.tree.children e.node)))
  | enter (owner popup : Held) (hentry : Entry start s owner popup) :
      Slip (s.site.host.noted (.append owner.node popup.node (s.tree.children popup.node)))
  | text (id : NodeId) (content : String) (parent : Handle)
      (hnews : s.news ++ [.text id content] <+: newcomers lines) :
      Slip ((s.site.write content).host.noted (.append parent s.tree.slots.size []))

end Steps

/-! ## §4 What goes on to wait -/

section Waiting

variable {waiting before after : List Held} {e e' owner popup : Held}

/-- What waits after a place was found did so before, in the same order. -/
theorem sublist_place (h : waiting = before ++ e :: after) : (before ++ after).Sublist waiting := by
  rw [h]
  exact (List.sublist_cons_self ..).append_left _

theorem mem_of_mem_place (h : waiting = before ++ e :: after) (he' : e' ∈ before ++ after) :
    e' ∈ waiting :=
  (sublist_place h).mem he'

/-- All but the element that found its place go on to wait. -/
theorem mem_place_of_ne (h : waiting = before ++ e :: after) (he' : e' ∈ waiting)
    (hne : e'.node ≠ e.node) : e' ∈ before ++ after := by
  rw [h, List.mem_append, List.mem_cons] at he'
  rcases he' with he' | rfl | he'
  · exact List.mem_append_left _ he'
  · exact absurd rfl hne
  · exact List.mem_append_right _ he'

/-- The element that found its place is none of those that go on to wait. -/
theorem ne_of_mem_place (hnodup : (waiting.map Held.node).Nodup)
    (h : waiting = before ++ e :: after) (he' : e' ∈ before ++ after) : e'.node ≠ e.node := by
  rw [h, List.map_append, List.map_cons, List.nodup_middle, ← List.map_append] at hnodup
  exact fun heq => (List.nodup_cons.mp hnodup).1 (heq ▸ List.mem_map_of_mem he')

/-- What waits after a popup has entered its owner did so before, if for another reason. -/
theorem exists_of_mem_enter (h : waiting = before ++ owner :: after ++ [popup])
    (he' : e' ∈ before ++ after ++ [{ owner with awaits := .parent }]) :
    ∃ e₀ ∈ waiting, e'.id = e₀.id ∧ e'.node = e₀.node ∧ e'.parent = e₀.parent := by
  rcases List.mem_append.mp he' with he' | he'
  · exact ⟨e', h ▸ List.mem_append_left _ (mem_of_mem_place rfl he'), rfl, rfl, rfl⟩
  · obtain rfl := List.mem_singleton.mp he'
    exact ⟨owner, by simp [h], rfl, rfl, rfl⟩

/-- All but the popup that entered its owner go on to wait. -/
theorem exists_enter_of_ne (h : waiting = before ++ owner :: after ++ [popup])
    (he' : e' ∈ waiting) (hne : e'.node ≠ popup.node) :
    ∃ e₁ ∈ before ++ after ++ [{ owner with awaits := .parent }], e₁.node = e'.node := by
  rw [h] at he'
  simp only [List.mem_append, List.mem_cons, List.not_mem_nil, or_false] at he'
  rcases he' with (he' | rfl | he') | rfl
  · exact ⟨e', by simp [he'], rfl⟩
  · exact ⟨{ e' with awaits := .parent }, by simp, rfl⟩
  · exact ⟨e', by simp [he'], rfl⟩
  · exact absurd rfl hne

/-- The popup that entered its owner is none of those that go on to wait. -/
theorem ne_of_mem_enter (hnodup : (waiting.map Held.node).Nodup)
    (h : waiting = before ++ owner :: after ++ [popup])
    (he' : e' ∈ before ++ after ++ [{ owner with awaits := .parent }]) :
    e'.node ≠ popup.node := by
  rw [h, List.map_append, List.map_singleton, ← List.concat_eq_append, List.nodup_concat] at hnodup
  refine fun heq => hnodup.1 (heq ▸ ?_)
  rcases List.mem_append.mp he' with he' | he'
  · exact List.mem_map_of_mem (mem_of_mem_place rfl he')
  · obtain rfl := List.mem_singleton.mp he'
    exact List.mem_map.mpr ⟨owner, by simp, rfl⟩

end Waiting

end RemoteUi
