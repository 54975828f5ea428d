import RemoteUi.Client.Builder
import RemoteUi.Proofs.Tree.Edits

/-!
# The steps of a builder

Three facts hold of every step of a builder at work, whatever it is for and whichever way it goes:
all that it does to the host is to ask for edits, one after the other; it neither reads nor changes
the late attributes that were put aside; and if it fails, an id denotes no node or the host refused
an edit.  A step that is *regular* in this sense stays so when it is put together from others, so
each function of the builder is looked at once.

* §1 what a host does when it is asked for an edit;
* §2 what hosts keep: kinds and texts of nodes, and the journal up to now;
* §3 regular steps;
* §4 the functions of a builder are regular.
-/

namespace RemoteUi

open RemoteUi.Wire

/-! ## §1 Edits asked of a host -/

/-- The tree that an edit leaves when it succeeds. -/
def Edit.treeAfter? {α : Type} (edit : Edit α) (tree : Tree) : Option Tree :=
  match edit tree with
  | .ok _ tree => some tree
  | .error _ _ => none

/-- The tree after an edit that was asked for, if it succeeds. -/
def Call.treeAfter? : Call → Tree → Option Tree
  | .createElement vocabulary tag id => Edit.treeAfter? (Tree.createElement vocabulary tag id)
  | .createText content => Edit.treeAfter? (Tree.createText content)
  | .append parent node _ => Edit.treeAfter? (Tree.append parent node)
  | .remove parent node => Edit.treeAfter? (Tree.remove parent node)
  | .setAttribute node key value => Edit.treeAfter? (Tree.setAttribute node key value)
  | .removeAttribute node key => Edit.treeAfter? (Tree.removeAttribute node key)
  | .setProperty node key value => Edit.treeAfter? (Tree.setProperty node key value)
  | .invoke node operation => Edit.treeAfter? (Tree.invoke node operation)
  | .addListener node listener => Edit.treeAfter? (Tree.addListener node listener)

namespace Host

/-- The host with an edit noted. -/
def noted (host : Host) (call : Call) : Host := { host with journal := host.journal ++ [call] }

/-- A host notes an edit that it is asked for, and carries it out or refuses it. -/
inductive Move (host : Host) : Host → Prop where
  | refused (call : Call) : Move host (host.noted call)
  | done (call : Call) (tree : Tree) (h : call.treeAfter? host.tree = some tree) :
      Move host { host.noted call with tree }

/-- What becomes of a host that is asked for edits, one after the other. -/
def Moves : Host → Host → Prop := Relation.ReflTransGen Move

/-- **An edit is noted first; then it is carried out, or the tree stays as it was.** -/
theorem perform_cases {α : Type} (call : Call) {act : Edit α} (hact : Tree.Atomic act)
    (host : Host) :
    (∃ e, perform call act host = .error e (host.noted call)) ∨
      ∃ a tree, act host.tree = .ok a tree ∧
        perform call act host = .ok a { host.noted call with tree } := by
  -- What the tree answers, once the edit is passed on to it.
  have hforward : (∃ e, forward act (host.noted call) = .error e (host.noted call)) ∨
      ∃ a tree, act host.tree = .ok a tree ∧
        forward act (host.noted call) = .ok a { host.noted call with tree } := by
    have htree : (host.noted call).tree = host.tree := rfl
    cases h : act host.tree with
    | ok a tree => exact .inr ⟨a, tree, rfl, by simp only [forward, htree, h]⟩
    | error e tree =>
      obtain rfl := hact _ _ _ h
      exact .inl ⟨e, by simp only [forward, htree, h]; rfl⟩
  have hnote : ∀ rest : Unit → HostEdit α,
      (note call >>= rest) host = rest () (host.noted call) := fun _ => rfl
  simp only [perform, hnote]
  cases call.operation? with
  | none => exact hforward
  | some operation =>
    simp only [get_bind_apply]
    split
    · exact .inl ⟨_, rfl⟩
    · cases (host.noted call).objects (host.noted call).journal with
      | some error => exact .inl ⟨error, rfl⟩
      | none => exact hforward

/-! ## §2 What hosts keep -/

variable {host host' : Host}

theorem Move.journal (h : host.Move host') : ∃ call, host'.journal = host.journal ++ [call] := by
  cases h with
  | refused call => exact ⟨call, rfl⟩
  | done call tree h => exact ⟨call, rfl⟩

/-- Nothing is taken out of a journal. -/
theorem Moves.journal (h : host.Moves host') : host.journal <+: host'.journal := by
  induction h with
  | refl => exact List.prefix_rfl
  | tail _ hm ih =>
    obtain ⟨call, hc⟩ := hm.journal
    rw [hc]
    exact ih.trans (List.prefix_append ..)

end Host

/-! ## §3 Regular steps -/

/-- The site with other lines put aside. -/
def Site.withLate (site : Site) (late : List Line) : Site :=
  { site with builder := { site.builder with late } }

@[simp] theorem Site.withLate_withLate (site : Site) (l₁ l₂ : List Line) :
    (site.withLate l₁).withLate l₂ = site.withLate l₂ := rfl

@[simp] theorem Site.withLate_self (site : Site) : site.withLate site.builder.late = site := rfl

namespace Build

/-- The outcome of a step with other lines put aside. -/
def outcomeWithLate {α : Type} (late : List Line) :
    EStateM.Result Fault Site α → EStateM.Result Fault Site α
  | .ok a site => .ok a (site.withLate late)
  | .error fault site => .error fault (site.withLate late)

/-- The site after a step, whichever way it went. -/
def siteAfter {α : Type} (step : Build α) (site : Site) : Site :=
  match step site with
  | .ok _ site => site
  | .error _ site => site

theorem siteAfter_of_ok {α : Type} {step : Build α} {site s : Site} {a : α}
    (h : step site = .ok a s) : siteAfter step site = s := by
  simp [siteAfter, h]

theorem siteAfter_of_error {α : Type} {step : Build α} {site s : Site} {fault : Fault}
    (h : step site = .error fault s) : siteAfter step site = s := by
  simp [siteAfter, h]

end Build

/-- A fault that arose while a window was built: an id denotes no node, or the host refused an edit. -/
def Fault.IsOfBuilding (fault : Fault) : Prop :=
  (∃ id, fault.innermost = .unresolved id) ∨ ∃ error, fault.innermost = .host error

/-- An annotation leaves the fault itself as it is. -/
theorem Fault.isOfBuilding_command (line : Line) (cause : Fault) :
    (Fault.command line cause).IsOfBuilding ↔ cause.IsOfBuilding := Iff.rfl

namespace Build

/-- All faults of a step arise from building. -/
def FaultsOfBuilding {α : Type} (step : Build α) : Prop :=
  ∀ site fault s, step site = .error fault s → fault.IsOfBuilding

section Faults

variable {α β : Type} {step : Build α}

theorem faultsOfBuilding_pure (a : α) : FaultsOfBuilding (pure a : Build α) := nofun

theorem faultsOfBuilding_throw {fault : Fault} (h : fault.IsOfBuilding) :
    FaultsOfBuilding (throw fault : Build α) := by
  rintro site _ _ ⟨⟩
  exact h

theorem FaultsOfBuilding.bind {next : α → Build β} (h : FaultsOfBuilding step)
    (hnext : ∀ a, FaultsOfBuilding (next a)) : FaultsOfBuilding (step >>= next) := by
  intro site fault s hs
  simp only [Bind.bind, EStateM.bind] at hs
  cases hstep : step site with
  | ok a s' =>
    rw [hstep] at hs
    exact hnext a s' fault s hs
  | error fault' s' =>
    rw [hstep] at hs
    cases hs
    exact h site _ _ hstep

theorem faultsOfBuilding_get_bind {next : Site → Build α}
    (h : ∀ site, FaultsOfBuilding (next site)) :
    FaultsOfBuilding ((get : Build Site) >>= next) :=
  fun site => h site site

theorem faultsOfBuilding_remember (f : Builder → Builder) : FaultsOfBuilding (remember f) := nofun

theorem FaultsOfBuilding.onLine (h : FaultsOfBuilding step) (line : Line) :
    FaultsOfBuilding (onLine line step) := by
  intro site fault s hs
  simp only [Build.onLine] at hs
  cases hstep : step site with
  | ok a s' =>
    rw [hstep] at hs
    cases hs
  | error fault' s' =>
    rw [hstep] at hs
    cases hs
    exact (Fault.isOfBuilding_command line fault').mpr (h site _ _ hstep)

theorem faultsOfBuilding_forM {f : β → Build Unit} {xs : List β}
    (h : ∀ x ∈ xs, FaultsOfBuilding (f x)) : FaultsOfBuilding (xs.forM f) := by
  induction xs with
  | nil => exact faultsOfBuilding_pure ()
  | cons x xs ih =>
    exact (h x List.mem_cons_self).bind fun _ => ih fun y hy => h y (List.mem_cons_of_mem _ hy)

theorem faultsOfBuilding_edit (act : HostEdit α) : FaultsOfBuilding (edit act) := by
  intro site fault s hs
  simp only [edit] at hs
  cases hact : act site.host with
  | ok a host =>
    rw [hact] at hs
    cases hs
  | error e host =>
    rw [hact] at hs
    cases hs
    exact .inr ⟨e, rfl⟩

end Faults

/-- A step only asks the host for edits, neither reads nor changes the lines put aside, and fails
only as builders do. -/
structure Regular {α : Type} (step : Build α) : Prop where
  ignoresLate : ∀ (site : Site) (late : List Line),
    step (site.withLate late) = outcomeWithLate late (step site)
  moves : ∀ site : Site, site.host.Moves (siteAfter step site).host
  faults : FaultsOfBuilding step

theorem regular_pure {α : Type} (a : α) : Regular (pure a : Build α) :=
  ⟨fun _ _ => rfl, fun _ => .refl, faultsOfBuilding_pure a⟩

theorem regular_throw {α : Type} {fault : Fault} (h : fault.IsOfBuilding) :
    Regular (throw fault : Build α) :=
  ⟨fun _ _ => rfl, fun _ => .refl, faultsOfBuilding_throw h⟩

theorem Regular.bind {α β : Type} {step : Build α} {next : α → Build β}
    (hstep : Regular step) (hnext : ∀ a, Regular (next a)) : Regular (step >>= next) where
  ignoresLate site late := by
    simp only [Bind.bind, EStateM.bind, hstep.ignoresLate site late]
    cases step site with
    | ok a s => exact (hnext a).ignoresLate s late
    | error fault s => rfl
  moves site := by
    have hm := hstep.moves site
    unfold siteAfter at hm ⊢
    simp only [Bind.bind, EStateM.bind]
    cases h : step site with
    | ok a s =>
      simp only [h] at hm
      exact hm.trans ((hnext a).moves s)
    | error fault s => simpa only [h] using hm
  faults := hstep.faults.bind fun a => (hnext a).faults

/-- A step that looks at the site first, but not at the lines put aside. -/
theorem regular_get_bind {β : Type} {next : Site → Build β}
    (hsame : ∀ site late, next (site.withLate late) = next site)
    (hnext : ∀ site, Regular (next site)) : Regular ((get : Build Site) >>= next) where
  ignoresLate site late := by
    show next (site.withLate late) (site.withLate late) = outcomeWithLate late (next site site)
    rw [hsame]
    exact (hnext site).ignoresLate site late
  moves site := (hnext site).moves site
  faults := faultsOfBuilding_get_bind fun site => (hnext site).faults

theorem regular_remember {f : Builder → Builder}
    (h : ∀ builder late, f { builder with late } = { f builder with late }) :
    Regular (remember f) where
  ignoresLate site late := by
    show EStateM.Result.ok () { site with builder := f { site.builder with late } } = _
    rw [h]
    rfl
  moves site := .refl
  faults := faultsOfBuilding_remember f

theorem Regular.onLine {α : Type} {step : Build α} (h : Regular step) (line : Line) :
    Regular (onLine line step) where
  ignoresLate site late := by
    simp only [Build.onLine, h.ignoresLate site late]
    cases step site <;> rfl
  moves site := by
    have hm := h.moves site
    unfold siteAfter at hm ⊢
    simp only [Build.onLine]
    cases hs : step site <;> simpa only [hs] using hm
  faults := h.faults.onLine line

theorem regular_forM {α : Type} {f : α → Build Unit} {xs : List α}
    (h : ∀ x ∈ xs, Regular (f x)) : Regular (xs.forM f) := by
  induction xs with
  | nil => exact regular_pure ()
  | cons x xs ih =>
    apply (h x List.mem_cons_self).bind
    intro _
    exact ih fun y hy => h y (List.mem_cons_of_mem _ hy)

/-- A regular step leaves the lines put aside as they are. -/
theorem Regular.late_eq {α : Type} {step : Build α} (h : Regular step) {site s : Site} {a : α}
    (hs : step site = .ok a s) : s.builder.late = site.builder.late := by
  -- To put aside the lines that are put aside already changes nothing.
  have hsame := h.ignoresLate site site.builder.late
  rw [Site.withLate_self, hs] at hsame
  injection hsame with _ hsame
  rw [hsame]
  rfl

theorem regular_edit_perform {α : Type} (call : Call) {act : Edit α} (hact : Tree.Atomic act)
    (hcall : ∀ tree, call.treeAfter? tree = Edit.treeAfter? act tree) :
    Regular (edit (Host.perform call act)) where
  ignoresLate site late := by
    simp only [edit, Site.withLate]
    cases Host.perform call act site.host <;> rfl
  moves site := by
    unfold siteAfter
    rcases Host.perform_cases call hact site.host with ⟨e, h⟩ | ⟨a, tree, ha, h⟩
    · simp only [edit, h]
      exact .single (.refused call)
    · simp only [edit, h]
      exact .single (.done call tree (by rw [hcall]; simp only [Edit.treeAfter?, ha]))
  faults := faultsOfBuilding_edit _

/-! ## §4 The functions of a builder -/

theorem regular_createElement (vocabulary : Vocabulary) (tag : String) (id : NodeId) :
    Regular (edit (Host.createElement vocabulary tag id)) :=
  regular_edit_perform _ (Tree.atomic_createElement _ _ _) fun _ => rfl

theorem regular_createText (content : String) : Regular (edit (Host.createText content)) :=
  regular_edit_perform _ (Tree.atomic_createText _) fun _ => rfl

theorem regular_append (parent node : Handle) : Regular (edit (Host.append parent node)) where
  ignoresLate site late := by
    have h := regular_edit_perform (.append parent node (site.host.tree.children node))
      (Tree.atomic_append parent node) fun _ => rfl
    exact h.ignoresLate site late
  moves site := by
    have h := regular_edit_perform (.append parent node (site.host.tree.children node))
      (Tree.atomic_append parent node) fun _ => rfl
    exact h.moves site
  faults := faultsOfBuilding_edit _

theorem regular_hostRemove (parent node : Handle) : Regular (edit (Host.remove parent node)) :=
  regular_edit_perform _ (Tree.atomic_remove _ _) fun _ => rfl

theorem regular_setAttribute (node : Handle) (key value : String) :
    Regular (edit (Host.setAttribute node key value)) :=
  regular_edit_perform _ (Tree.atomic_setAttribute _ _ _) fun _ => rfl

theorem regular_removeAttribute (node : Handle) (key : String) :
    Regular (edit (Host.removeAttribute node key)) :=
  regular_edit_perform _ (Tree.atomic_removeAttribute _ _) fun _ => rfl

theorem regular_setProperty (node : Handle) (key value : String) :
    Regular (edit (Host.setProperty node key value)) :=
  regular_edit_perform _ (Tree.atomic_setProperty _ _ _) fun _ => rfl

theorem regular_invoke (node : Handle) (operation : String) :
    Regular (edit (Host.invoke node operation)) :=
  regular_edit_perform _ (Tree.atomic_invoke _ _) fun _ => rfl

theorem regular_addListener (node : Handle) (listener : Listener) :
    Regular (edit (Host.addListener node listener)) :=
  regular_edit_perform _ (Tree.atomic_addListener _ _) fun _ => rfl

theorem regular_resolve (id : NodeId) : Regular (resolve id) := by
  apply regular_get_bind (fun _ _ => rfl)
  intro site
  cases site.resolve? id with
  | none => exact regular_throw (.inl ⟨id, rfl⟩)
  | some node => exact regular_pure node

theorem regular_hold (held : Held) : Regular (hold held) :=
  regular_remember fun _ _ => rfl

theorem regular_attachNext (id : NodeId) (parent : Handle) (held : Held) :
    Regular (attachNext id parent held) :=
  (regular_remember fun _ _ => rfl).bind fun _ => (regular_append _ _).onLine _

theorem regular_attachWaiting (id : NodeId) (parent : Handle) :
    Regular (attachWaiting id parent) := by
  apply regular_get_bind (fun _ _ => rfl)
  intro site
  exact regular_forM fun held _ => regular_attachNext id parent held

theorem regular_attachOrHold (held : Held) : Regular (attachOrHold held) := by
  apply regular_get_bind (fun _ _ => rfl)
  intro site
  cases site.resolveParent? held.parent with
  | none => exact regular_hold _
  | some parent => exact regular_append _ _

theorem regular_dock (held : Held) : Regular (dock held) :=
  ((regular_resolve _).bind fun _ => regular_append _ _).onLine _

theorem regular_dockAll : Regular dockAll := by
  apply regular_get_bind (fun _ _ => rfl)
  intro site
  apply (regular_remember fun _ _ => rfl).bind
  intro _
  exact regular_forM fun held _ => regular_dock held

theorem regular_nameWindow (id : NodeId) : Regular (nameWindow id) := by
  apply regular_get_bind (fun _ _ => rfl)
  intro site
  cases site.builder.window with
  | none =>
    exact (regular_remember fun _ _ => rfl).bind fun _ => regular_attachWaiting _ _
  | some window =>
    by_cases h : window = id
    · simpa [h] using regular_attachWaiting id Tree.root
    · simpa [h] using regular_pure ()

theorem regular_ownerOf (tag : String) (parent : Option NodeId) :
    Regular (ownerOf tag parent) := by
  unfold ownerOf
  cases parent with
  | none => exact regular_pure _
  | some parent =>
    by_cases h : tag = popupTag
    · simp only [h, if_true]
      apply regular_get_bind (fun _ _ => rfl)
      intro site
      exact (regular_remember fun _ _ => rfl).bind fun _ => regular_pure _
    · simpa [h] using regular_pure none

theorem regular_bringForth (id : NodeId) (vocabulary : Vocabulary) (tag : String) :
    Regular (bringForth id vocabulary tag) := by
  apply (regular_createElement _ _ _).bind
  intro node
  apply (regular_remember fun _ _ => rfl).bind
  intro _
  cases wiring? tag id with
  | none => exact regular_pure _
  | some listener => exact (regular_addListener _ _).bind fun _ => regular_pure _

theorem regular_settle (tag : String) (held : Held) : Regular (settle tag held) := by
  unfold settle
  split
  · exact regular_hold _
  · apply (regular_ownerOf _ _).bind
    intro owner
    cases owner with
    | none => exact regular_attachOrHold _
    | some owner =>
      apply (regular_append _ _).bind
      intro _
      exact regular_attachOrHold _

theorem regular_create (line : Line) (id : NodeId) (tag : String) (parent : Option NodeId) :
    Regular (create line id tag parent) := by
  apply (regular_bringForth _ _ _).bind
  intro node
  exact (regular_settle _ _).bind fun _ => regular_attachWaiting _ _

theorem regular_setFlag (node : Handle) (key : String) (value : Option String) :
    Regular (setFlag node key value) := by
  unfold setFlag
  split
  · exact regular_setAttribute _ _ _
  · exact regular_removeAttribute _ _

theorem regular_setQuietly (node : Handle) (key value : String) :
    Regular (setQuietly node key value) :=
  (regular_setAttribute _ _ _).bind fun _ =>
    (regular_setProperty _ _ _).bind fun _ => regular_setAttribute _ _ _

theorem regular_setKey (id : NodeId) (key : String) (value : Option String) :
    Regular (setKey id key value) := by
  apply (regular_resolve _).bind
  intro node
  split
  · exact (regular_createText _).bind fun _ => regular_append _ _
  split
  · exact regular_setFlag _ _ _
  split
  · exact regular_invoke _ _
  split
  · exact regular_setQuietly _ _ _
  · exact regular_setAttribute _ _ _

theorem regular_remove (id : NodeId) : Regular (Build.remove id) := by
  apply regular_get_bind (fun _ _ => rfl)
  intro site
  cases site.host.tree.lookup? id with
  | none => exact regular_throw (.inl ⟨id, rfl⟩)
  | some node =>
    apply regular_get_bind (fun _ _ => rfl)
    intro site
    cases site.host.parent? node with
    | none => exact regular_throw (.inr ⟨.detached, rfl⟩)
    | some parent =>
      exact (regular_hostRemove _ _).bind fun _ => regular_remember fun _ _ => rfl

end Build

end RemoteUi
