import RemoteUi.Proofs.Build.Books
import RemoteUi.Proofs.Tree.Sunk

/-!
# After a removal

A removal takes a whole subtree out of the tree, and one id out of the books.  From then on a pass
comes to a node of the subtree only by an id that the books still have, which are the ids of the
elements that were created in the pass below the removed one.  All other ids of the subtree denote
nothing any more, and their nodes stay as they are.

* §1 what holds at all later sites of the pass;
* §2 edits, and what changes in the books;
* §3 the functions of the builder;
* §4 the rest of the pass.
-/

namespace RemoteUi

open RemoteUi.Wire

/-! ## §1 Later sites -/

/-- The books have no entry for a node. -/
def Builder.Forgets (builder : Builder) (node : Handle) : Prop :=
  ∀ id, builder.created.get? id ≠ some node

/-- An id under which a node of the subtree was found. -/
def Site.Sank (gone : Site) (top : Handle) (id : NodeId) : Prop :=
  ∃ node, gone.tree.Upward node top ∧ gone.tree.ids.get? id = some node

/-- A later site of a pass that was at `gone` when `top` had just been removed: the subtree is out of
the tree, and the nodes that were forgotten with it are as they were. -/
def Site.Sunk (gone : Site) (top : Handle) (site : Site) : Prop :=
  gone.tree.Sunk top gone.builder.Forgets site.tree

/-- A site in the same pass, when some lines more were carried out and some elements wait. -/
structure Aftermath (gone : Site) (top : Handle) (lines : List Line) (waiting : List Held)
    (site : Site) : Prop where
  sunk : gone.Sunk top site
  /-- The books tell of the ids of the subtree what they told then. -/
  created : ∀ id, gone.Sank top id →
    site.builder.created.get? id = gone.builder.created.get? id
  forgets : ∀ node, gone.tree.Upward node top → gone.builder.Forgets node →
    site.builder.Forgets node
  /-- No element of the subtree waits. -/
  apart : ∀ e ∈ waiting, ¬ gone.tree.Upward e.node top ∧ ¬ gone.Sank top e.id
  /-- An element that was created below a forgotten node waits in vain, unless the root has come to
  bear the id. -/
  awaited : ∀ line ∈ lines, ∀ id other tag, line.command = .create other tag (some id) →
    gone.Sank top id → gone.builder.created.get? id = none →
    site.builder.window = some id ∨ ∃ e ∈ waiting, e.parent = some id

namespace Aftermath

open Build

variable {gone site s : Site} {top node parent : Handle} {lines : List Line} {line : Line}
  {waiting waiting' : List Held} {id : NodeId} {key : String} {value : Option String} {e : Held}

theorem lookup?_eq_none (h : Aftermath gone top lines waiting site) (hsank : gone.Sank top id) :
    site.tree.lookup? id = none := by
  obtain ⟨node, hup, hget⟩ := hsank
  exact h.sunk.lookup?_eq_none hup hget

/-- An id of the subtree denotes what the books told of it at the removal. -/
theorem resolve?_eq (h : Aftermath gone top lines waiting site) (hsank : gone.Sank top id)
    (hwindow : site.builder.window ≠ some id) :
    site.resolve? id = gone.builder.created.get? id := by
  have hlookup : site.host.tree.lookup? id = none := h.lookup?_eq_none hsank
  unfold Site.resolve?
  rw [if_neg hwindow, hlookup, Option.or_none, h.created id hsank]

/-- What a forgotten id denotes is the root. -/
theorem window_of_resolve? (h : Aftermath gone top lines waiting site) (hsank : gone.Sank top id)
    (hforgotten : gone.builder.created.get? id = none) (hr : site.resolve? id = some node) :
    site.builder.window = some id := by
  by_contra hwindow
  rw [h.resolve?_eq hsank hwindow, hforgotten] at hr
  cases hr

/-- **No id denotes a node that was forgotten.** -/
theorem not_forgets (h : Aftermath gone top lines waiting site)
    (hr : site.resolve? id = some node) (hup : gone.tree.Upward node top) :
    ¬ gone.builder.Forgets node := by
  intro hforgets
  unfold Site.resolve? at hr
  split at hr
  · cases hr
    exact h.sunk.root hup
  · rcases Option.or_eq_some_iff.mp hr with hcreated | ⟨-, hlookup⟩
    · exact h.forgets node hup hforgets id hcreated
    · exact h.sunk.not_upward_of_lookup? hlookup hup

/-! ## §2 Edits and books -/

/-- Edits that leave the books as they are. -/
theorem of_keepsBooks {α : Type} {step : Build α} (h : Aftermath gone top lines waiting site)
    (hstep : KeepsBooks step)
    (hsunk : Leads step site (fun _ => gone.Sunk top) (gone.Sunk top)) :
    Leads step site (fun _ s => Aftermath gone top lines waiting s ∧ s.builder = site.builder)
      (gone.Sunk top) := by
  have hbooks := hstep.leads site
  unfold Leads at hsunk hbooks ⊢
  cases hs : step site with
  | error fault s => simpa only [hs] using hsunk
  | ok a s =>
    simp only [hs] at hsunk hbooks
    -- All but the tree is said about the books.
    refine ⟨⟨hsunk, ?_, ?_, h.apart, ?_⟩, hbooks⟩
    all_goals rw [hbooks]
    · exact h.created
    · exact h.forgets
    · exact h.awaited

/-- A change of the books that tells no more of the subtree. -/
theorem record (h : Aftermath gone top lines waiting site) (builder : Builder)
    (hcreated : ∀ id, gone.Sank top id →
      builder.created.get? id = site.builder.created.get? id)
    (hforgets : ∀ id node, gone.tree.Upward node top →
      builder.created.get? id = some node → site.builder.created.get? id = some node)
    (hwindow : ∀ id, site.builder.window = some id → builder.window = some id) :
    Aftermath gone top lines waiting { site with builder } where
  sunk := h.sunk
  created id hsank := (hcreated id hsank).trans (h.created id hsank)
  forgets node hup hforgotten id hget :=
    h.forgets node hup hforgotten id (hforgets id node hup hget)
  apart := h.apart
  awaited line hline id other tag hc hsank hforgotten :=
    (h.awaited line hline id other tag hc hsank hforgotten).imp_left (hwindow id)

/-- What is held back, and what is put aside, tells nothing of the subtree. -/
theorem shelve (h : Aftermath gone top lines waiting site) (held : List Held)
    (late : List Line) : Aftermath gone top lines waiting
      { site with builder := { site.builder with held, late } } :=
  h.record _ (fun _ _ => rfl) (fun _ _ _ hget => hget) fun _ hw => hw

/-- Other elements wait.  What waited for a forgotten id goes on to wait for it, unless the root bears
the id. -/
theorem wait (h : Aftermath gone top lines waiting site)
    (hmem : ∀ e' ∈ waiting', ∃ e ∈ waiting, e'.node = e.node ∧ e'.id = e.id)
    (hawaited : ∀ e ∈ waiting, ∀ id, e.parent = some id → gone.Sank top id →
      gone.builder.created.get? id = none →
      site.builder.window = some id ∨ ∃ e' ∈ waiting', e'.parent = some id) :
    Aftermath gone top lines waiting' site where
  sunk := h.sunk
  created := h.created
  forgets := h.forgets
  apart e' he' := by
    obtain ⟨e, he, hnode, hid⟩ := hmem e' he'
    rw [hnode, hid]
    exact h.apart e he
  awaited line hline id other tag hc hsank hforgotten := by
    rcases h.awaited line hline id other tag hc hsank hforgotten with hw | ⟨e, he, hword⟩
    · exact .inl hw
    · exact hawaited e he id hword hsank hforgotten

/-- An element stops waiting when its parent is there. -/
theorem placed (h : Aftermath gone top lines waiting site) (hmem : waiting' ⊆ waiting)
    (hrest : ∀ e' ∈ waiting, e' = e ∨ e' ∈ waiting')
    (hparent : ∀ id, e.parent = some id → ∃ node, site.resolve? id = some node) :
    Aftermath gone top lines waiting' site := by
  refine h.wait (fun e' he' => ⟨e', hmem he', rfl, rfl⟩) ?_
  intro e' he' word hword hsank hforgotten
  rcases hrest e' he' with rfl | he'
  · -- A forgotten id denotes the root, if anything.
    obtain ⟨node, hnode⟩ := hparent word hword
    exact .inl (h.window_of_resolve? hsank hforgotten hnode)
  · exact .inr ⟨e', he', hword⟩

/-- A line more was carried out. -/
theorem concat (h : Aftermath gone top lines waiting site)
    (hline : ∀ id other tag, line.command = .create other tag (some id) →
      ∃ e ∈ waiting, e.parent = some id) :
    Aftermath gone top (lines ++ [line]) waiting site where
  sunk := h.sunk
  created := h.created
  forgets := h.forgets
  apart := h.apart
  awaited l hl id other tag hc hsank hforgotten := by
    rcases List.mem_append.mp hl with hl | hl
    · exact h.awaited l hl id other tag hc hsank hforgotten
    · rw [List.mem_singleton.mp hl] at hc
      exact .inr (hline id other tag hc)

/-- Another element begins to wait. -/
theorem join (h : Aftermath gone top lines waiting site)
    (he : ¬ gone.tree.Upward e.node top ∧ ¬ gone.Sank top e.id) :
    Aftermath gone top lines (waiting ++ [e]) site where
  sunk := h.sunk
  created := h.created
  forgets := h.forgets
  apart e' he' := by
    rcases List.mem_append.mp he' with he' | he'
    · exact h.apart e' he'
    · rw [List.mem_singleton.mp he']
      exact he
  awaited l hl id other tag hc hsank hforgotten :=
    (h.awaited l hl id other tag hc hsank hforgotten).imp_right fun ⟨e', he', hword⟩ =>
      ⟨e', List.mem_append_left _ he', hword⟩

theorem leads_edit (h : gone.Sunk top site) (call : Call) {act : Edit Unit}
    (hact : Tree.Atomic act)
    (hsunk : ∀ tree, act site.tree = .ok () tree →
      gone.tree.Sunk top gone.builder.Forgets tree) :
    Leads (edit (Host.perform call act)) site (fun _ => gone.Sunk top) (gone.Sunk top) :=
  leads_edit_perform call hact (fun _ tree ht => hsunk tree ht) h

theorem leads_append (h : gone.Sunk top site) (hnode : ¬ gone.tree.Upward node top)
    (hparent : gone.tree.Upward parent top → ¬ gone.builder.Forgets parent) :
    Leads (edit (Host.append parent node)) site (fun _ => gone.Sunk top) (gone.Sunk top) :=
  leads_edit_append (fun _ ht => h.append hnode hparent ht) h

/-! ## §3 The functions of the builder -/

/-- Setting a key comes to no node that was forgotten. -/
theorem leads_setKey (h : Aftermath gone top lines waiting site) (id : NodeId) (key : String)
    (value : Option String) :
    Leads (setKey id key value) site
      (fun _ s => Aftermath gone top lines waiting s ∧ s.builder = site.builder)
      (gone.Sunk top) := by
  apply h.of_keepsBooks (keepsBooks_setKey id key value)
  apply leads_resolve_bind h.sunk
  intro node hr
  have hnode := h.not_forgets hr
  split
  · -- A text is a new node.
    have hwrite : gone.Sunk top (site.write (value.getD "")) := h.sunk.push _
    exact leads_createText_bind _ (leads_append hwrite
      (fun hup => absurd (h.sunk.lt _ hup) (Nat.lt_irrefl _)) hnode)
  split
  · unfold setFlag
    split
    · exact leads_edit h.sunk _ (Tree.atomic_setAttribute _ _ _)
        fun _ ht => h.sunk.modifyElement hnode ht
    · exact leads_edit h.sunk _ (Tree.atomic_removeAttribute _ _)
        fun _ ht => h.sunk.modifyElement hnode ht
  split
  · exact leads_edit h.sunk _ (Tree.atomic_invoke _ _) fun _ ht => h.sunk.invoke hnode ht
  split
  · refine (leads_edit h.sunk _ (Tree.atomic_setAttribute _ _ _)
      fun _ ht => h.sunk.modifyElement hnode ht).bind fun _ s₁ h₁ => ?_
    refine (leads_edit h₁ _ (Tree.atomic_setProperty _ _ _)
      fun _ ht => h₁.setProperty hnode ht).bind fun _ s₂ h₂ => ?_
    exact leads_edit h₂ _ (Tree.atomic_setAttribute _ _ _)
      fun _ ht => h₂.modifyElement hnode ht
  · exact leads_edit h.sunk _ (Tree.atomic_setAttribute _ _ _)
      fun _ ht => h.sunk.modifyElement hnode ht

theorem leads_attachWaiting (h : Aftermath gone top lines site.builder.held site)
    (hparent : gone.tree.Upward parent top → ¬ gone.builder.Forgets parent)
    (hid : gone.Sank top id → site.builder.window = some id) :
    Leads (attachWaiting id parent) site (fun _ s => Aftermath gone top lines s.builder.held s)
      (gone.Sunk top) := by
  refine (leads_attachWaiting_turns (fun s => Aftermath gone top lines s.builder.held s ∧
    s.builder.window = site.builder.window) ?_ ⟨h, rfl⟩).mono fun _ s hs => hs.1.1
  rintro before e after s hheld - he ⟨hs, hwindow⟩
  obtain ⟨-, hword⟩ : e.awaits = .parent ∧ e.parent = some id := by
    simpa [Held.awaitsParent] using he
  rw [hheld] at hs
  -- Only what waits for this parent stops waiting, and if it waited in vain, the root bears the id.
  have hshelve : Aftermath gone top lines (before ++ after)
      { s with builder := { s.builder with held := before ++ after } } := by
    refine (hs.wait (fun e' he' => ⟨e', ?_, rfl, rfl⟩) ?_).shelve _ _
    · rcases List.mem_append.mp he' with he' | he'
      · exact List.mem_append_left _ he'
      · exact List.mem_append_right _ (List.mem_cons_of_mem _ he')
    · intro e' he' w hw hsank _
      rcases List.mem_append.mp he' with he' | he'
      · exact .inr ⟨e', List.mem_append_left _ he', hw⟩
      rcases List.mem_cons.mp he' with rfl | he'
      · rw [hword] at hw
        cases hw
        exact .inl (hwindow.trans (hid hsank))
      · exact .inr ⟨e', List.mem_append_right _ he', hw⟩
  refine (hshelve.of_keepsBooks (keepsBooks_edit _) (leads_append hshelve.sunk
    (hs.apart e (by simp)).1 hparent)).mono ?_
  rintro _ s' ⟨hs', hbuilder⟩
  rw [hbuilder]
  exact ⟨hs', hwindow⟩

/-- An element in hand is held back. -/
theorem leads_hold (h : Aftermath gone top lines (site.builder.held ++ [e]) site)
    (awaits : Awaited) :
    Leads (hold { e with awaits }) site (fun _ s => Aftermath gone top lines s.builder.held s)
      (gone.Sunk top) := by
  apply leads_remember
  refine (h.wait (fun e' he' => ?_) fun e' he' w hword _ _ => .inr ?_).shelve _ _
  · rcases List.mem_append.mp he' with he' | he'
    · exact ⟨e', List.mem_append_left _ he', rfl, rfl⟩
    · rw [List.mem_singleton.mp he']
      exact ⟨e, List.mem_append_right _ List.mem_cons_self, rfl, rfl⟩
  · rcases List.mem_append.mp he' with he' | he'
    · exact ⟨e', List.mem_append_left _ he', hword⟩
    · rw [List.mem_singleton.mp he'] at hword
      exact ⟨_, List.mem_append_right _ List.mem_cons_self, hword⟩

theorem leads_attachOrHold (h : Aftermath gone top lines (site.builder.held ++ [e]) site) :
    Leads (attachOrHold e) site (fun _ s => Aftermath gone top lines s.builder.held s)
      (gone.Sunk top) := by
  apply leads_get_bind
  cases hr : site.resolveParent? e.parent with
  | none => exact leads_hold h .parent
  | some p =>
    obtain ⟨word, hword, hr⟩ := Option.bind_eq_some_iff.mp hr
    have hmem : e ∈ site.builder.held ++ [e] := List.mem_append_right _ List.mem_cons_self
    have hheld : Aftermath gone top lines site.builder.held site := by
      refine h.placed (e := e) (List.subset_append_left _ _) (fun e' he' => ?_) fun w hw => ?_
      · exact (List.mem_append.mp he').symm.imp_left List.mem_singleton.mp
      · rw [hword] at hw
        cases hw
        exact ⟨p, hr⟩
    refine (hheld.of_keepsBooks (keepsBooks_edit _)
      (leads_append h.sunk (h.apart e hmem).1 (h.not_forgets hr))).mono ?_
    rintro _ s ⟨hs, hbuilder⟩
    rwa [hbuilder]

/-- What is in hand next, a new element or the owner that waits for it, is none of the subtree. -/
theorem leads_owner (tag : String)
    (h : Aftermath gone top lines (site.builder.held ++ [e]) site) :
    Leads (ownerOf tag e.parent) site (fun owner s =>
      Aftermath gone top lines (s.builder.held ++ [owner.getD e]) s ∧
        ∀ o, owner = some o → ¬ gone.tree.Upward o.node top) (gone.Sunk top) := by
  refine leads_ownerOf ⟨h, nofun⟩ ?_
  intro before owner after hheld _ hword _
  have howner := h.apart owner (by simp [hheld])
  have hwait : Aftermath gone top lines (before ++ after ++ [owner]) site := by
    refine h.wait (fun e' he' => ⟨e', ?_, rfl, rfl⟩) fun e' he' w hparent hsank _ => ?_
    · rw [hheld]
      simp only [List.mem_append, List.mem_cons, List.not_mem_nil, or_false] at he' ⊢
      tauto
    · rw [hheld] at he'
      simp only [List.mem_append, List.mem_cons, List.not_mem_nil, or_false] at he'
      rcases he' with (he' | rfl | he') | rfl
      · exact .inr ⟨e', by simp [he'], hparent⟩
      · exact .inr ⟨e', by simp, hparent⟩
      · exact .inr ⟨e', by simp [he'], hparent⟩
      · -- The popup waits for an element that waits itself, so for none of the subtree.
        rw [hparent] at hword
        cases hword
        exact absurd hsank howner.2
  refine ⟨hwait.shelve _ _, ?_⟩
  rintro _ ⟨⟩
  exact howner.1

theorem leads_settle (tag : String)
    (h : Aftermath gone top lines (site.builder.held ++ [e]) site) :
    Leads (settle tag e) site (fun _ s => Aftermath gone top lines s.builder.held s)
      (gone.Sunk top) := by
  unfold settle
  split
  · exact leads_hold h .popup
  · have hnode := (h.apart e (List.mem_append_right _ List.mem_cons_self)).1
    refine (leads_owner tag h).bind fun owner s hs => ?_
    cases owner with
    | none => exact leads_attachOrHold hs.1
    | some owner =>
      refine (hs.1.of_keepsBooks (keepsBooks_edit _) (leads_append hs.1.sunk hnode
        fun hup => absurd hup (hs.2 owner rfl))).bind fun _ s' hs' => ?_
      apply leads_attachOrHold
      rw [hs'.2]
      exact hs'.1

/-- An element is created under an id that is none of the subtree. -/
theorem leads_bringForth (h : Aftermath gone top lines site.builder.held site) (line : Line)
    (vocabulary : Vocabulary) (tag : String) (word : Option NodeId) (hid : ¬ gone.Sank top id) :
    Leads (bringForth id vocabulary tag) site
      (fun node s => ¬ gone.tree.Upward node top ∧
        Aftermath gone top lines (s.builder.held ++ [⟨id, node, word, .parent, line⟩]) s)
      (gone.Sunk top) := by
  -- The new handle is beyond those of the subtree.
  have hnew : ¬ gone.tree.Upward site.tree.slots.size top :=
    fun hup => absurd (h.sunk.lt _ hup) (Nat.lt_irrefl _)
  have hsunk : gone.tree.Sunk top gone.builder.Forgets
      (site.tree.withElement vocabulary tag id) :=
    h.sunk.withElement vocabulary tag fun node hup hget => hid ⟨node, hup, hget⟩
  refine Leads.bind (leads_createElement vocabulary tag id (leads_remember_bind ?_) h.sunk)
    fun _ s hs => hs
  have hmade : Aftermath gone top lines site.builder.held
      { site with host := { site.host.noted (.createElement vocabulary tag id) with
          tree := site.tree.withElement vocabulary tag id } } :=
    ⟨hsunk, h.created, h.forgets, h.apart, h.awaited⟩
  have hnoted : Aftermath gone top lines
      (site.builder.held ++ [⟨id, site.tree.slots.size, word, .parent, line⟩])
      { builder := { site.builder with
          created := site.builder.created.insert id site.tree.slots.size }
        host := { site.host.noted (.createElement vocabulary tag id) with
          tree := site.tree.withElement vocabulary tag id } } := by
    refine Aftermath.join (hmade.record _ (fun w hsank => ?_) (fun w node hup hget => ?_)
      fun _ hw => hw) ⟨hnew, hid⟩
    · have hne : id ≠ w := by
        rintro rfl
        exact hid hsank
      exact (Dict.get?_insert ..).trans (if_neg hne)
    · rw [Dict.get?_insert] at hget
      split at hget
      · cases hget
        exact absurd hup hnew
      · exact hget
  · cases wiring? tag id with
    | none => exact leads_pure ⟨hnew, hnoted⟩
    | some listener =>
      refine (hnoted.of_keepsBooks (keepsBooks_edit _) (leads_edit hnoted.sunk _
        (Tree.atomic_addListener _ _) fun _ ht =>
          hnoted.sunk.modifyElement (fun hup => absurd hup hnew) ht)).bind fun _ s hs => ?_
      refine leads_pure ⟨hnew, ?_⟩
      rw [hs.2]
      exact hs.1

theorem leads_create (h : Aftermath gone top lines site.builder.held site) (tag : String)
    {word : Option NodeId} (hc : line.command = .create id tag word) (hid : ¬ gone.Sank top id) :
    Leads (create line id tag word) site
      (fun _ s => Aftermath gone top (lines ++ [line]) s.builder.held s) (gone.Sunk top) := by
  refine (leads_bringForth h line _ _ word hid).bind ?_
  rintro node s ⟨hnode, hs⟩
  have hline : Aftermath gone top (lines ++ [line])
      (s.builder.held ++ [⟨id, node, word, .parent, line⟩]) s := by
    refine hs.concat fun w other tag' hc' =>
      ⟨_, List.mem_append_right _ List.mem_cons_self, ?_⟩
    rw [hc] at hc'
    cases hc'
    rfl
  refine (leads_settle _ hline).bind fun _ s' hs' => ?_
  exact leads_attachWaiting hs' (fun hup => absurd hup hnode) fun hsank => absurd hsank hid

theorem leads_nameWindow (h : Aftermath gone top lines site.builder.held site) (id : NodeId) :
    Leads (nameWindow id) site (fun _ s => Aftermath gone top lines s.builder.held s)
      (gone.Sunk top) := by
  have hroot : gone.tree.Upward Tree.root top → ¬ gone.builder.Forgets Tree.root :=
    fun hup => absurd hup h.sunk.root
  apply leads_get_bind
  cases hw : site.builder.window with
  | some window =>
    by_cases heq : window = id
    · simp only [if_pos heq]
      exact leads_attachWaiting h hroot fun _ => hw.trans (congrArg some heq)
    · simp only [if_neg heq]
      exact leads_pure h
  | none =>
    -- If the new name is an id of the subtree, what waits for it is attached to the root.
    refine leads_remember_bind (leads_attachWaiting ?_ hroot fun _ => rfl)
    refine h.record _ (fun _ _ => rfl) (fun _ _ _ hget => hget) fun w hname => ?_
    rw [hw] at hname
    cases hname

theorem leads_remove (h : Aftermath gone top lines waiting site) (id : NodeId) :
    Leads (Build.remove id) site
      (fun _ s => Aftermath gone top lines waiting s ∧ s.builder.held = site.builder.held)
      (gone.Sunk top) := by
  apply leads_get_bind
  cases hlookup : site.host.tree.lookup? id with
  | none => exact leads_throw h.sunk
  | some node =>
    apply leads_get_bind
    cases site.host.parent? node with
    | none => exact leads_throw h.sunk
    | some parent =>
      have hnode : ¬ gone.tree.Upward node top := h.sunk.not_upward_of_lookup? hlookup
      refine (h.of_keepsBooks (keepsBooks_edit _) (leads_edit h.sunk _
        (Tree.atomic_remove parent node) fun tree ht => ?_)).bind fun _ s hs => ?_
      · rw [Tree.remove_eq] at ht
        split at ht <;> cases ht
        exact h.sunk.detach hnode
      · have hheld : s.builder.held = site.builder.held := congrArg Builder.held hs.2
        refine leads_remember ⟨hs.1.record _ (fun w hsank => ?_) (fun w n _ hget => ?_)
          fun _ hw => hw, hheld⟩
        · -- What was removed now was attached.
          have hne : id ≠ w := by
            rintro rfl
            exact nomatch hlookup.symm.trans (h.lookup?_eq_none hsank)
          exact (Dict.get?_erase ..).trans (if_neg hne)
        · rw [Dict.get?_erase] at hget
          split at hget
          · cases hget
          · exact hget

/-- **Each command leaves the subtree where it is.** -/
theorem leads_perform (h : Aftermath gone top lines site.builder.held site)
    (hnew : ∀ id tag word, line.command = .create id tag word → ¬ gone.Sank top id) :
    Leads (perform line) site (fun _ s => Aftermath gone top (lines ++ [line]) s.builder.held s)
      (gone.Sunk top) := by
  -- Only a creation has a parent.
  have hline : ∀ {s : Site}, (∀ id tag word, line.command ≠ .create id tag word) →
      Aftermath gone top lines s.builder.held s →
      Aftermath gone top (lines ++ [line]) s.builder.held s :=
    fun hno hs => hs.concat fun id other tag hc => absurd hc (hno other tag (some id))
  unfold perform
  cases hc : line.command with
  | window id => exact (leads_nameWindow h id).mono fun _ s hs => hline (by simp [hc]) hs
  | create id tag word => exact leads_create h tag hc (hnew id tag word hc)
  | remove id =>
    refine (leads_remove h id).mono fun _ s hs => hline (by simp [hc]) ?_
    rw [hs.2]
    exact hs.1
  | set id key value =>
    simp only
    split
    · exact leads_remember (hline (by simp [hc]) (h.shelve _ _))
    · refine (leads_setKey h id key value).mono fun _ s hs => hline (by simp [hc]) ?_
      rw [hs.2]
      exact hs.1

/-! ## §4 The rest of the pass -/

/-- The creations of some lines use no id of the subtree. -/
theorem leads_commands (h : Aftermath gone top [] gone.builder.held gone)
    (hnew : ∀ line ∈ lines, ∀ id tag word, line.command = .create id tag word →
      ¬ gone.Sank top id) :
    Leads (commands lines) gone (fun _ s => Aftermath gone top lines s.builder.held s)
      (gone.Sunk top) := by
  -- What is left of the lines tells which of them were carried out.
  refine (leads_forM (fun rest s => ∃ done, done ++ rest = lines ∧
    Aftermath gone top done s.builder.held s) ?_ ⟨[], rfl, h⟩).mono ?_
  · rintro line rest s ⟨done, hdone, hs⟩
    have hline : line ∈ lines := hdone ▸ by simp
    refine Leads.onLine ((leads_perform hs (hnew line hline)).mono fun _ s' hs' => ?_) line
    exact ⟨done ++ [line], by simpa using hdone, hs'⟩
  · rintro _ s ⟨done, hdone, hs⟩
    rw [List.append_nil] at hdone
    rwa [hdone] at hs

theorem leads_dock (h : Aftermath gone top lines (e :: waiting) site) :
    Leads (dock e) site (fun _ s => Aftermath gone top lines waiting s) (gone.Sunk top) := by
  refine Leads.onLine (leads_resolve_bind h.sunk fun p hp => ?_) e.origin
  -- The word is looked up that the element waits for; a missing one is waited for by nothing.
  have hrest : Aftermath gone top lines waiting site := by
    refine h.placed (e := e) (List.subset_cons_self _ _) (fun e' he' => List.mem_cons.mp he')
      fun id hid => ?_
    rw [hid] at hp
    exact ⟨p, hp⟩
  exact (hrest.of_keepsBooks (keepsBooks_edit _) (leads_append h.sunk
    (h.apart e List.mem_cons_self).1 (h.not_forgets hp))).mono fun _ s hs => hs.1

/-- When all elements have found their places, none was created below a forgotten node. -/
theorem leads_dockAll (h : Aftermath gone top lines site.builder.held site) :
    Leads dockAll site (fun _ s => Aftermath gone top lines [] s) (gone.Sunk top) :=
  leads_get_bind (leads_remember_bind (leads_forM (fun rest s => Aftermath gone top lines rest s)
    (fun _ _ _ hs => leads_dock hs) (h.shelve [] site.builder.late)))

theorem leads_performLate (h : Aftermath gone top lines waiting site) (line : Line) :
    Leads (performLate line) site (fun _ s => Aftermath gone top lines waiting s)
      (gone.Sunk top) := by
  unfold performLate
  cases line.command with
  | set id key value => exact (leads_setKey h id key value).mono fun _ s hs => hs.1
  | window id => exact leads_pure h
  | create id tag word => exact leads_pure h
  | remove id => exact leads_pure h

/-- **When the rest of a pass succeeds, no element was created below a forgotten node**, unless the
root has come to bear its id; and whether it succeeds or not, the subtree is where it was. -/
theorem leads_proceed (h : Aftermath gone top [] gone.builder.held gone)
    (hnew : ∀ line ∈ lines, ∀ id tag word, line.command = .create id tag word →
      ¬ gone.Sank top id) :
    Leads (proceed lines) gone (fun _ s => gone.Sunk top s ∧
      ∀ line ∈ lines, ∀ id other tag, line.command = .create other tag (some id) →
        gone.Sank top id → gone.builder.created.get? id = none → s.builder.window = some id)
      (gone.Sunk top) := by
  refine (leads_commands h hnew).bind fun _ s₁ h₁ => (leads_dockAll h₁).bind fun _ s₂ h₂ => ?_
  have hlate : Leads performAllLate s₂ (fun _ s => Aftermath gone top lines [] s)
      (gone.Sunk top) :=
    leads_get_bind (leads_remember_bind (leads_forM (fun _ s => Aftermath gone top lines [] s)
      (fun line _ _ hs => Leads.onLine (leads_performLate hs line) line)
      (h₂.shelve s₂.builder.held [])))
  refine hlate.bind fun _ s₃ h₃ => leads_remember ⟨h₃.sunk, ?_⟩
  intro line hline id other tag hc hsank hforgotten
  exact (h₃.awaited line hline id other tag hc hsank hforgotten).resolve_right
    fun ⟨e, he, _⟩ => nomatch he

/-- Where a command is taken up after the removal. -/
theorem of_command {rest : List Line} (h : Aftermath gone top [] gone.builder.held gone)
    (hnew : ∀ line ∈ rest, ∀ id tag word, line.command = .create id tag word →
      ¬ gone.Sank top id) (htask : TakesUp rest gone (.command line) s) :
    ∃ lines, Aftermath gone top lines s.builder.held s := by
  obtain ⟨before, after, rfl, hbefore⟩ := htask.of_command
  refine ⟨before, (leads_commands h fun l hl => ?_).of_ok hbefore⟩
  exact hnew l (List.mem_append_left _ hl)

/-- Where a late line is taken up after the removal, whether it was put aside before or since. -/
theorem of_late {rest : List Line} (h : Aftermath gone top [] gone.builder.held gone)
    (hnew : ∀ line ∈ rest, ∀ id tag word, line.command = .create id tag word →
      ¬ gone.Sank top id) (htask : TakesUp rest gone (.late line) s) :
    Aftermath gone top rest [] s := by
  cases htask with
  | command hcomes => obtain ⟨_, -, heq⟩ := List.mem_map.mp hcomes.mem; cases heq
  | dock hcommands hcomes => obtain ⟨_, -, heq⟩ := List.mem_map.mp hcomes.mem; cases heq
  | @late s₁ s₂ hcommands hdock hcomes =>
    have hdocked := (leads_dockAll ((leads_commands h hnew).of_ok hcommands)).of_ok hdock
    obtain ⟨tasks, more, hsplit, htasks⟩ := hcomes.split
    -- All that was taken up since the docking are late lines, too.
    have hall : ∀ task ∈ tasks, ∃ line, task = .late line := by
      intro task htask
      have hmem : task ∈ s₂.builder.late.map .late := hsplit ▸ List.mem_append_left _ htask
      obtain ⟨l, -, rfl⟩ := List.mem_map.mp hmem
      exact ⟨l, rfl⟩
    have hrun : Leads (tasks.forM Task.run) (s₂.withLate [])
        (fun _ s => Aftermath gone top rest [] s) (gone.Sunk top) := by
      refine (leads_forM (fun rest' s => (∀ task ∈ rest', ∃ line, task = .late line) ∧
        Aftermath gone top rest [] s) ?_ ⟨hall, hdocked.shelve _ []⟩).mono fun _ s hs => hs.2
      rintro task rest' s ⟨hrest, hs⟩
      obtain ⟨l, rfl⟩ := hrest task List.mem_cons_self
      refine Leads.onLine ((leads_performLate hs l).mono fun _ s' hs' => ?_) l
      exact ⟨fun task htask => hrest task (List.mem_cons_of_mem _ htask), hs'⟩
    exact hrun.of_ok htasks

end Aftermath

end RemoteUi
