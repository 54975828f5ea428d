import RemoteUi.Proofs.Build.Steps

/-!
# What a pass upholds

A builder asks a host for edits of its tree, and for nothing else.  Most of the edits stand alone; the
one that sets a property has its place between two others.  A relation between trees that all of them
uphold, whether the host carries them out or refuses them, holds between the trees before and after
every pass.

* §1 steps that uphold a relation;
* §2 the functions of a builder.
-/

namespace RemoteUi

open RemoteUi.Wire

/-- Whether an edit has nothing to do with the selected entry of an element. -/
def Call.isOrdinary : Call → Bool
  | .setProperty .. => false
  | .setAttribute _ key _ | .removeAttribute _ key => key ≠ Tree.selectedIndexKey
  | _ => true

namespace Build

/-! ## §1 Steps -/

/-- The trees before and after a step stand in a relation, whichever way the step goes. -/
def Upholds {α : Type} (R : Tree → Tree → Prop) (step : Build α) : Prop :=
  ∀ site, R site.host.tree (siteAfter step site).host.tree

/-- A relation that is upheld by all that a builder asks of a host. -/
structure Upheld (R : Tree → Tree → Prop) : Prop where
  refl : ∀ tree, R tree tree
  trans : ∀ {a b c}, R a b → R b c → R a c
  ordinary : ∀ (call : Call) tree tree', call.isOrdinary → call.treeAfter? tree = some tree' →
    R tree tree'
  quietly : ∀ node value, Upholds R (setQuietly node Tree.selectedIndexKey value)

namespace Upheld

variable {R : Tree → Tree → Prop} {α β : Type} {step : Build α}

theorem pure (h : Upheld R) (a : α) : Upholds R (Pure.pure a : Build α) := fun _ => h.refl _

theorem throw (h : Upheld R) (fault : Fault) : Upholds R (MonadExcept.throw fault : Build α) :=
  fun _ => h.refl _

theorem bind (h : Upheld R) {next : α → Build β} (hstep : Upholds R step)
    (hnext : ∀ a, Upholds R (next a)) : Upholds R (step >>= next) := by
  intro site
  have hs := hstep site
  unfold siteAfter at hs ⊢
  simp only [Bind.bind, EStateM.bind]
  cases hstep : step site with
  | ok a s =>
    simp only [hstep] at hs
    exact h.trans hs (hnext a s)
  | error fault s => simpa only [hstep] using hs

theorem get_bind {next : Site → Build α} (hnext : ∀ site, Upholds R (next site)) :
    Upholds R ((get : Build Site) >>= next) :=
  fun site => hnext site site

theorem remember (h : Upheld R) (f : Builder → Builder) : Upholds R (Build.remember f) :=
  fun _ => h.refl _

theorem onLine (hstep : Upholds R step) (line : Line) : Upholds R (onLine line step) := by
  intro site
  have hs := hstep site
  unfold siteAfter at hs ⊢
  simp only [Build.onLine]
  cases hstep : step site <;> simpa only [hstep] using hs

theorem forM (h : Upheld R) {f : β → Build Unit} {xs : List β} (hf : ∀ x, Upholds R (f x)) :
    Upholds R (xs.forM f) := by
  induction xs with
  | nil => exact h.pure ()
  | cons x xs ih => exact h.bind (hf x) fun _ => ih

/-- An ordinary edit that the host carries out upholds the relation, and so does one that it
refuses. -/
theorem edit_perform (h : Upheld R) (call : Call) {act : Edit α} (hact : Tree.Atomic act)
    (hcall : ∀ tree, call.treeAfter? tree = Edit.treeAfter? act tree)
    (hordinary : call.isOrdinary) : Upholds R (edit (Host.perform call act)) := by
  intro site
  unfold siteAfter edit
  rcases Host.perform_cases call hact site.host with ⟨e, hperform⟩ | ⟨a, tree, ha, hperform⟩
  · rw [hperform]
    exact h.refl _
  · rw [hperform]
    refine h.ordinary call _ _ hordinary ?_
    rw [hcall, Edit.treeAfter?, ha]

theorem append (h : Upheld R) (parent node : Handle) :
    Upholds R (edit (Host.append parent node)) := by
  intro site
  -- The children that are noted are read off the tree, and the edit is the same whatever they are.
  exact h.edit_perform (.append parent node (site.host.tree.children node))
    (Tree.atomic_append parent node) (fun _ => rfl) rfl site

theorem setAttribute (h : Upheld R) (node : Handle) {key : String}
    (hkey : key ≠ Tree.selectedIndexKey) (value : String) :
    Upholds R (edit (Host.setAttribute node key value)) :=
  h.edit_perform _ (Tree.atomic_setAttribute node key value) (fun _ => rfl)
    (decide_eq_true hkey)

/-! ## §2 The functions of a builder -/

theorem resolve (h : Upheld R) (id : NodeId) : Upholds R (resolve id) := by
  apply get_bind
  intro site
  cases site.resolve? id with
  | none => exact h.throw _
  | some node => exact h.pure node

theorem attachWaiting (h : Upheld R) (id : NodeId) (parent : Handle) :
    Upholds R (attachWaiting id parent) := by
  apply get_bind
  intro site
  exact h.forM fun held => h.bind (h.remember _) fun _ => onLine (h.append _ _) _

theorem attachOrHold (h : Upheld R) (held : Held) : Upholds R (attachOrHold held) := by
  apply get_bind
  intro site
  cases site.resolveParent? held.parent with
  | none => exact h.remember _
  | some parent => exact h.append _ _

theorem dockAll (h : Upheld R) : Upholds R dockAll := by
  apply get_bind
  intro site
  refine h.bind (h.remember _) fun _ => ?_
  exact h.forM fun held => onLine (h.bind (h.resolve _) fun _ => h.append _ _) _

theorem nameWindow (h : Upheld R) (id : NodeId) : Upholds R (nameWindow id) := by
  apply get_bind
  intro site
  cases site.builder.window with
  | none => exact h.bind (h.remember _) fun _ => h.attachWaiting _ _
  | some window =>
    by_cases heq : window = id
    · simpa only [if_pos heq] using h.attachWaiting id Tree.root
    · simpa only [if_neg heq] using h.pure ()

theorem ownerOf (h : Upheld R) (tag : String) (parent : Option NodeId) :
    Upholds R (ownerOf tag parent) := by
  unfold Build.ownerOf
  cases parent with
  | none => exact h.pure _
  | some parent =>
    dsimp only
    split
    · exact get_bind fun _ => h.bind (h.remember _) fun _ => h.pure _
    · exact h.pure none

theorem bringForth (h : Upheld R) (id : NodeId) (vocabulary : Vocabulary) (tag : String) :
    Upholds R (bringForth id vocabulary tag) := by
  refine h.bind ?_ fun node => h.bind (h.remember _) fun _ => ?_
  · exact h.edit_perform _ (Tree.atomic_createElement _ _ _) (fun _ => rfl) rfl
  cases wiring? tag id with
  | none => exact h.pure _
  | some listener =>
    refine h.bind ?_ fun _ => h.pure _
    exact h.edit_perform _ (Tree.atomic_addListener _ _) (fun _ => rfl) rfl

theorem settle (h : Upheld R) (tag : String) (held : Held) : Upholds R (settle tag held) := by
  unfold Build.settle
  split
  · exact h.remember _
  · refine h.bind (h.ownerOf _ _) fun owner => ?_
    cases owner with
    | none => exact h.attachOrHold _
    | some owner => exact h.bind (h.append _ _) fun _ => h.attachOrHold _

theorem create (h : Upheld R) (line : Line) (id : NodeId) (tag : String)
    (parent : Option NodeId) : Upholds R (create line id tag parent) := by
  refine h.bind (h.bringForth _ _ _) fun node => ?_
  exact h.bind (h.settle _ _) fun _ => h.attachWaiting _ _

theorem setFlag (h : Upheld R) (node : Handle) {key : String} (hkey : flagKeys.contains key)
    (value : Option String) : Upholds R (setFlag node key value) := by
  -- No flag has the name of the selected entry.
  have hne : key ≠ Tree.selectedIndexKey := by
    rintro rfl
    exact absurd hkey (by decide)
  unfold Build.setFlag
  split
  · exact h.setAttribute node hne _
  · exact h.edit_perform _ (Tree.atomic_removeAttribute _ _) (fun _ => rfl) (decide_eq_true hne)

theorem setKey (h : Upheld R) (id : NodeId) (key : String) (value : Option String) :
    Upholds R (setKey id key value) := by
  refine h.bind (h.resolve id) fun node => ?_
  split
  · refine h.bind ?_ fun _ => h.append _ _
    exact h.edit_perform _ (Tree.atomic_createText _) (fun _ => rfl) rfl
  split
  · next hflag => exact h.setFlag node hflag value
  split
  · exact h.edit_perform _ (Tree.atomic_invoke _ _) (fun _ => rfl) rfl
  split
  · next hproperty =>
    obtain rfl : key = Tree.selectedIndexKey := by simpa [propertyKeys] using hproperty
    exact h.quietly node _
  · next hproperty =>
    have hne : key ≠ Tree.selectedIndexKey := by simpa [propertyKeys] using hproperty
    exact h.setAttribute node hne _

theorem remove (h : Upheld R) (id : NodeId) : Upholds R (Build.remove id) := by
  apply get_bind
  intro site
  cases site.host.tree.lookup? id with
  | none => exact h.throw _
  | some node =>
    apply get_bind
    intro site
    cases site.host.parent? node with
    | none => exact h.throw _
    | some parent =>
      refine h.bind ?_ fun _ => h.remember _
      exact h.edit_perform _ (Tree.atomic_remove _ _) (fun _ => rfl) rfl

theorem perform (h : Upheld R) (line : Line) : Upholds R (perform line) := by
  unfold Build.perform
  cases line.command with
  | window id => exact h.nameWindow id
  | create id tag parent => exact h.create line id tag parent
  | remove id => exact h.remove id
  | set id key value =>
    dsimp only
    split
    · exact h.remember _
    · exact h.setKey id key value

theorem performLate (h : Upheld R) (line : Line) : Upholds R (performLate line) := by
  unfold Build.performLate
  cases line.command with
  | set id key value => exact h.setKey id key value
  | window | create | remove => exact h.pure ()

/-- **What is upheld by all that a builder asks for is upheld by every pass.** -/
theorem pass (h : Upheld R) (lines : List Line) : Upholds R (pass lines) := by
  refine h.bind (h.remember _) fun _ => h.bind ?_ fun _ => h.bind h.dockAll fun _ =>
    h.bind (get_bind fun _ => h.bind (h.remember _) fun _ => ?_) fun _ => h.remember _
  · exact h.forM fun line => onLine (h.perform line) line
  · exact h.forM fun line => onLine (h.performLate line) line

/-- The same of a run, whatever comes of it. -/
theorem run (h : Upheld R) (builder : Builder) (host : Host) (reply : Reply) :
    R host.tree (builder.run host reply).2.2.tree := by
  have hpass := h.pass reply.lines ⟨builder, host⟩
  unfold siteAfter at hpass
  unfold Builder.run
  cases hs : Build.pass reply.lines ⟨builder, host⟩ <;> simpa only [hs] using hpass

end Upheld

end Build

end RemoteUi
