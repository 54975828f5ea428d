import RemoteUi.Proofs.Build.Outcomes
import RemoteUi.Proofs.Build.Tasks

/-!
# What is asked of a node

The calls of a step tell which nodes it is about.  Setting a key is about the node that the id
denotes, and naming the root is about the root.  An element that is created below the root's name is
put below the root before anything else is put below it, and is the last child of the root then.

* §1 calls and the nodes that they are about;
* §2 keys and names;
* §3 the last child of a node;
* §4 new elements below the root.
-/

namespace RemoteUi

open RemoteUi.Wire

/-! ## §1 Calls -/

namespace Build

/-- From one site to another the host was asked for calls of which `P` holds. -/
def Asked (P : List Call → Prop) (site s : Site) : Prop :=
  ∃ calls, s.host.journal = site.host.journal ++ calls ∧ P calls

/-- All calls are to put something below a node. -/
def AllBelow (parent : Handle) (calls : List Call) : Prop :=
  ∀ call ∈ calls, ∃ node carried, call = .append parent node carried

end Build

/-- The node that a call is about; a node that is created is not there yet. -/
def Call.subject? : Call → Option Handle
  | .createElement .. | .createText _ => none
  | .append parent _ _ | .remove parent _ => some parent
  | .setAttribute node _ _ | .removeAttribute node _ | .setProperty node _ _ | .invoke node _
  | .addListener node _ => some node

namespace Build

/-- All calls that are about a node are about this one. -/
def AllOn (node : Handle) (calls : List Call) : Prop :=
  ∀ call ∈ calls, ∀ n, call.subject? = some n → n = node

/-- There are calls about a node, and about no other one. -/
structure ActsOn (node : Handle) (calls : List Call) : Prop where
  only : AllOn node calls
  some_on : ∃ call ∈ calls, call.subject? = some node

section Asked

variable {P Q : List Call → Prop} {site s : Site} {call : Call} {node parent : Handle}
  {calls : List Call}

theorem asked_nil (site : Site) (h : P []) : Asked P site site :=
  ⟨[], (List.append_nil _).symm, h⟩

/-- One more call. -/
theorem Asked.noted (h : Asked P site s) (hP : ∀ calls, P calls → Q (calls ++ [call]))
    {host : Host} (hhost : host.journal = s.host.journal ++ [call]) (builder : Builder) :
    Asked Q site ⟨builder, host⟩ := by
  obtain ⟨calls, hjournal, hcalls⟩ := h
  exact ⟨calls ++ [call], by rw [hhost, hjournal, List.append_assoc], hP calls hcalls⟩

/-- What a step asks for is what the deed of its task tells. -/
theorem Asked.of_run {task : Task} (h : Asked P site (siteAfter task.run site)) :
    P (task.deed site).calls := by
  obtain ⟨calls, hjournal, hcalls⟩ := h
  rw [task.journal_run, List.append_cancel_left_eq] at hjournal
  rwa [hjournal]

theorem AllOn.concat (h : AllOn node calls) (hcall : ∀ n, call.subject? = some n → n = node) :
    AllOn node (calls ++ [call]) :=
  List.forall_mem_append.mpr ⟨h, List.forall_mem_singleton.mpr hcall⟩

theorem AllOn.acts (h : AllOn node calls) (hcall : call.subject? = some node) :
    ActsOn node (calls ++ [call]) where
  only := h.concat fun _ hn => Option.some.inj (hn.symm.trans hcall)
  some_on := ⟨call, by simp, hcall⟩

theorem allBelow_nil (parent : Handle) : AllBelow parent [] := by simp [AllBelow]

theorem AllBelow.concat (h : AllBelow parent calls) (node : Handle) (carried : List Handle) :
    AllBelow parent (calls ++ [.append parent node carried]) :=
  List.forall_mem_append.mpr ⟨h, List.forall_mem_singleton.mpr ⟨node, carried, rfl⟩⟩

/-- An edit of a node is a call about it, whether it is refused or not. -/
theorem Asked.edit_on (h : Asked (AllOn node) site s) {act : Edit Unit} (hact : Tree.Atomic act)
    (hcall : call.subject? = some node) :
    Leads (edit (Host.perform call act)) s (fun _ => Asked (ActsOn node) site)
      (Asked (ActsOn node) site) :=
  leads_edit_perform call hact (fun _ _ _ => h.noted (fun _ hc => hc.acts hcall) rfl _)
    (h.noted (fun _ hc => hc.acts hcall) rfl _)

/-- So does the next one. -/
theorem Asked.edit_on_again (h : Asked (ActsOn node) site s) {act : Edit Unit}
    (hact : Tree.Atomic act) (hcall : call.subject? = some node) :
    Leads (edit (Host.perform call act)) s (fun _ => Asked (ActsOn node) site)
      (Asked (ActsOn node) site) := by
  obtain ⟨calls, hjournal, hcalls⟩ := h
  exact Asked.edit_on ⟨calls, hjournal, hcalls.only⟩ hact hcall

/-! ## §2 Keys and names -/

/-- **What is set under an id is set at the node that the id denotes**, and nowhere else. -/
theorem leads_setKey_on {id : NodeId} (hresolve : s.resolve? id = some node) (key : String)
    (value : Option String) :
    Leads (setKey id key value) s (fun _ => Asked (ActsOn node) s) (Asked (ActsOn node) s) := by
  have hstart : Asked (AllOn node) s s := asked_nil s nofun
  unfold setKey
  rw [Leads, bind_of_ok (resolve_of_some hresolve), ← Leads]
  split
  · -- The text is created first, and then put below the node.
    have hwrite : Asked (AllOn node) s (s.write (value.getD "")) :=
      hstart.noted (fun _ hc => hc.concat (by simp [Call.subject?])) rfl _
    exact leads_createText_bind (value.getD "") (leads_edit_append
      (fun _ _ => hwrite.noted (fun _ hc => hc.acts rfl) rfl _)
      (hwrite.noted (fun _ hc => hc.acts rfl) rfl _))
  split
  · unfold setFlag
    split
    · exact hstart.edit_on (Tree.atomic_setAttribute _ _ _) rfl
    · exact hstart.edit_on (Tree.atomic_removeAttribute _ _) rfl
  split
  · exact hstart.edit_on (Tree.atomic_invoke _ _) rfl
  split
  · refine (hstart.edit_on (Tree.atomic_setAttribute _ _ _) rfl).bind fun _ s hs => ?_
    refine (hs.edit_on_again (Tree.atomic_setProperty _ _ _) rfl).bind fun _ s hs => ?_
    exact hs.edit_on_again (Tree.atomic_setAttribute _ _ _) rfl
  · exact hstart.edit_on (Tree.atomic_setAttribute _ _ _) rfl

/-- What is not about the books and holds through one append after the other holds when the waiting
elements are attached. -/
theorem leads_attachWaiting_of {I fault : Site → Prop} (id : NodeId) (h : I site)
    (hbooks : ∀ s builder, I s → I { s with builder })
    (happend : ∀ node s, I s → Leads (edit (Host.append parent node)) s (fun _ => I) fault) :
    Leads (attachWaiting id parent) site (fun _ => I) fault :=
  (leads_attachWaiting_turns I (fun _ e _ s _ _ _ hs => happend e.node _ (hbooks s _ hs)) h).mono
    fun _ _ hs => hs.1

/-- From one site to another nodes were put below one, and nothing else was asked for. -/
structure PutsBelow (parent : Handle) (site s : Site) : Prop where
  asked : Asked (AllBelow parent) site s
  size : s.tree.slots.size = site.tree.slots.size

/-- What waits for a node is put below it. -/
theorem leads_attachWaiting_below (id : NodeId) (parent : Handle) (site : Site) :
    Leads (attachWaiting id parent) site (fun _ => PutsBelow parent site)
      (PutsBelow parent site) := by
  have hnil : Asked (AllBelow parent) site site := asked_nil site (allBelow_nil _)
  refine leads_attachWaiting_of id ⟨hnil, rfl⟩ (fun s _ hs => ⟨hs.asked, hs.size⟩) fun node s hs => ?_
  have hasked : ∀ call host, call = .append parent node (s.tree.children node) →
      host.journal = s.host.journal ++ [call] → Asked (AllBelow parent) site { s with host } := by
    rintro _ host rfl hhost
    exact hs.asked.noted (fun _ hc => hc.concat node _) hhost _
  exact leads_edit_append
    (fun tree h => ⟨hasked _ _ rfl rfl, (Tree.size_of_append h).trans hs.size⟩)
    ⟨hasked _ _ rfl rfl, hs.size⟩

/-- **When the root is named, elements are put below it, and no node is created.** -/
theorem leads_nameWindow_below (id : NodeId) (site : Site) :
    Leads (nameWindow id) site (fun _ => PutsBelow Tree.root site) (PutsBelow Tree.root site) := by
  have hattach (builder : Builder) := leads_attachWaiting_below id Tree.root { site with builder }
  apply leads_get_bind
  cases site.builder.window with
  | none =>
    -- The name is written down first, which the host is not asked for.
    exact leads_remember_bind ((hattach _).imp (fun _ s hs => ⟨hs.asked, hs.size⟩)
      fun s hs => ⟨hs.asked, hs.size⟩)
  | some window =>
    by_cases heq : window = id
    · simpa only [if_pos heq] using hattach site.builder
    · simp only [if_neg heq]
      exact leads_pure ⟨asked_nil site (allBelow_nil _), rfl⟩

/-- Another name for the root is ignored. -/
theorem nameWindow_of_ne {window id : NodeId} (hwindow : site.builder.window = some window)
    (hne : window ≠ id) : nameWindow id site = .ok () site := by
  unfold nameWindow
  rw [get_bind_apply, hwindow]
  simp only [if_neg hne]
  rfl

end Asked

end Build

/-! ## §3 The last child -/

/-- A node is the last child of its parent. -/
structure Tree.IsLastBelow (tree : Tree) (parent node : Handle) : Prop where
  parent? : tree.parent? node = some parent
  last : (tree.children parent).getLast? = some node

namespace Tree

variable {tree tree' : Tree} {parent node other : Handle}

theorem ne_of_append (h : append parent node tree = .ok () tree') : node ≠ parent := by
  obtain ⟨hparent, hcycle, -⟩ := eq_of_append h
  rintro rfl
  -- The lineage of a node begins with the node.
  obtain ⟨limit, hlimit⟩ := Nat.exists_eq_add_one_of_ne_zero
    (Nat.ne_of_gt (Nat.zero_lt_of_lt (lt_of_isSome_element? hparent)))
  rw [lineage, hlimit, lineageUpTo] at hcycle
  exact hcycle List.mem_cons_self

theorem isLastBelow_of_append (h : append parent node tree = .ok () tree')
    (hnode : node < tree.slots.size) : tree'.IsLastBelow parent node := by
  obtain ⟨hparent, -, rfl⟩ := eq_of_append h
  have hlt : parent < (tree.detach node).slots.size := by
    rw [size_detach]
    exact lt_of_isSome_element? hparent
  refine ⟨?_, ?_⟩
  · rw [parent?_attachLast _ _ _ (by simpa using hnode), if_pos rfl]
  · rw [children_attachLast _ _ _ hlt, if_pos rfl, List.getLast?_append]
    rfl

/-- What is put below the last child leaves it the last child. -/
theorem IsLastBelow.append (hlast : tree.IsLastBelow parent node) (hne : node ≠ parent)
    (h : append node other tree = .ok () tree') : tree'.IsLastBelow parent node := by
  have hother := ne_of_append h
  obtain ⟨helement, -, rfl⟩ := eq_of_append h
  have hlt : node < (tree.detach other).slots.size := by
    rw [size_detach]
    exact lt_of_isSome_element? helement
  refine ⟨?_, ?_⟩
  · rw [parent?_attachLast_of_ne _ _ hother.symm, parent?_detach, if_neg hother.symm]
    exact hlast.parent?
  · rw [children_attachLast _ _ _ hlt, if_neg hne.symm, children_detach]
    -- The node that is put below the last child may have been a child before it.
    obtain ⟨elders, helders⟩ := List.getLast?_eq_some_iff.mp hlast.last
    split
    · rw [helders, List.filter_append]
      simp [hother.symm]
    · exact hlast.last

end Tree

/-! ## §4 New elements below the root -/

namespace Build

/-- The calls that bring a new element below the root. -/
def callsBelowRoot (kind : Vocabulary × String) (id : NodeId) (node : Handle) : List Call :=
  .createElement kind.1 kind.2 id :: (wiring? kind.2 id).toList.map (.addListener node) ++
    [.append Tree.root node []]

/-- From one site to another an element was created and at once put below the root; whatever was
done after that was to put others below the element. -/
structure BroughtBelowRoot (id : NodeId) (kind : Vocabulary × String) (site s : Site) : Prop where
  kind? : s.tree.kind? site.tree.slots.size = some (some id, kind)
  place : s.tree.IsLastBelow Tree.root site.tree.slots.size
  ne_root : site.tree.slots.size ≠ Tree.root
  asked : Asked (fun calls => ∃ more, calls = callsBelowRoot kind id site.tree.slots.size ++ more ∧
    AllBelow site.tree.slots.size more) site s

section Create

variable {site s : Site} {id window : NodeId} {kind : Vocabulary × String} {fault : Site → Prop}

/-- A new element with its listener, before it has a place. -/
structure BroughtForth (id : NodeId) (kind : Vocabulary × String) (site s : Site) : Prop where
  window : s.builder.window = site.builder.window
  lt : site.tree.slots.size < s.tree.slots.size
  kind? : s.tree.kind? site.tree.slots.size = some (some id, kind)
  children : s.tree.children site.tree.slots.size = []
  asked : s.host.journal = site.host.journal ++ (.createElement kind.1 kind.2 id ::
    (wiring? kind.2 id).toList.map (.addListener site.tree.slots.size))

theorem leads_bringForth_new (id : NodeId) (kind : Vocabulary × String) (site : Site) :
    Leads (bringForth id kind.1 kind.2) site
      (fun node s => node = site.tree.slots.size ∧ BroughtForth id kind site s) fun _ => True := by
  refine Leads.bind (leads_createElement _ _ _ (leads_remember_bind ?_) trivial) fun _ s hs => hs
  have hkind : (site.tree.withElement kind.1 kind.2 id).kind? site.tree.slots.size =
      some (some id, kind) := by
    rw [Tree.kind?_withElement, if_pos rfl]
  have hchildren : (site.tree.withElement kind.1 kind.2 id).children site.tree.slots.size = [] := by
    rw [Tree.children_withElement, Tree.children_eq_nil_of_le (Nat.le_refl _)]
  cases hw : wiring? kind.2 id with
  | none =>
    refine leads_pure ⟨rfl, rfl, ?_, hkind, hchildren, ?_⟩
    · simp [Site.tree]
    · simp [hw, Host.noted]
  | some listener =>
    refine Leads.bind (leads_quiet _ (Tree.atomic_addListener _ _)
      (fun _ _ => Tree.sameShape_addListener) (fun host hshape hjournal => ?_) trivial)
      fun _ s hs => hs
    refine leads_pure ⟨rfl, rfl, ?_, ?_, ?_, ?_⟩
    · show _ < host.tree.slots.size
      rw [hshape.size]
      simp [Site.tree]
    · exact (hshape.kind? _).trans hkind
    · exact (hshape.children _).trans hchildren
    · simp [hw, hjournal, Host.noted]

/-- The element is put below the root, which the name denotes. -/
theorem BroughtForth.settle (h : BroughtForth id kind site s)
    (hwindow : site.builder.window = some window)
    (htag : kind.2 ∉ ["menu", "menulist", "menupopup"]) (line : Line) :
    Leads (settle kind.2 ⟨id, site.tree.slots.size, some window, .parent, line⟩) s
      (fun _ => BroughtBelowRoot id kind site) fun _ => True := by
  have howner : ¬ popupOwnerTags.contains kind.2 := by simp_all [popupOwnerTags]
  have hpopup : kind.2 ≠ popupTag := by simp_all [popupTag]
  have hresolve : s.resolveParent? (some window) = some Tree.root := by
    simp [Site.resolveParent?, Site.resolve?, h.window, hwindow]
  unfold Build.settle
  simp only [if_neg howner, ownerOf, if_neg hpopup, pure_bind]
  apply leads_get_bind
  rw [hresolve]
  refine leads_edit_append (fun tree happend => ⟨?_, ?_, ?_, ?_⟩) trivial
  · exact (Tree.kind?_of_append happend _).trans h.kind?
  · exact Tree.isLastBelow_of_append happend h.lt
  · exact Tree.ne_of_append happend
  · refine ⟨callsBelowRoot kind id site.tree.slots.size, ?_, [], by simp, allBelow_nil _⟩
    simp [callsBelowRoot, Host.noted, h.asked, h.children]

/-- What was waiting for the element is put below it. -/
theorem BroughtBelowRoot.attachWaiting (h : BroughtBelowRoot id kind site s) (id' : NodeId) :
    Leads (attachWaiting id' site.tree.slots.size) s (fun _ => BroughtBelowRoot id kind site)
      fun _ => True := by
  refine leads_attachWaiting_of id' ⟨h.kind?, h.place, h.ne_root, h.asked⟩
    (fun s _ hs => ⟨hs.kind?, hs.place, hs.ne_root, hs.asked⟩) fun node s hs => ?_
  refine leads_edit_append (fun tree happend => ⟨?_, ?_, hs.ne_root, ?_⟩) trivial
  · exact (Tree.kind?_of_append happend _).trans hs.kind?
  · exact hs.place.append hs.ne_root happend
  · refine hs.asked.noted ?_ rfl _
    rintro _ ⟨more, rfl, hmore⟩
    exact ⟨_, List.append_assoc .., hmore.concat node _⟩

/-- **An element below the name of the root is put below the root at once**, unless it waits for a
popup or is one. -/
theorem leads_create_belowRoot (hwindow : site.builder.window = some window) {tag : String}
    (htag : (Vocabulary.resolve tag).2 ∉ ["menu", "menulist", "menupopup"]) (line : Line)
    (id : NodeId) :
    Leads (create line id tag (some window)) site
      (fun _ => BroughtBelowRoot id (Vocabulary.resolve tag) site) fun _ => True := by
  refine (leads_bringForth_new id (Vocabulary.resolve tag) site).bind ?_
  rintro _ s ⟨rfl, hs⟩
  exact (hs.settle hwindow htag line).bind fun _ s' hs' => hs'.attachWaiting id

end Create

end Build

end RemoteUi
