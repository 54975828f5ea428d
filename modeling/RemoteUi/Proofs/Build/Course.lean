import RemoteUi.Proofs.Build.Outcomes

/-!
# The course of a pass

The functions of the builder, taken apart into the steps of a pass.  Each function is looked at once:
it leads through steps to its result, or to a fault at some stage.  So what every step keeps, every
command keeps.

* §1 attaching and holding back;
* §2 the commands.
-/

namespace RemoteUi

open RemoteUi.Wire

/-! ## §1 Attaching and holding back -/

theorem Site.resolveParent?_eq_none {site site' : Site} (h : site.StaysUnresolved site')
    {word : Option NodeId} (hw : site.resolveParent? word = none) :
    site'.resolveParent? word = none := by
  cases word with
  | none => rfl
  | some id => exact h id hw

theorem Site.resolve?_of_created {site : Site} {id : NodeId} {node : Handle}
    (hw : site.builder.window ≠ some id) (hcreated : site.builder.created.get? id = some node) :
    site.resolve? id = some node := by
  unfold Site.resolve?
  rw [if_neg hw, hcreated]
  rfl

/-- What an id is borne by, it is borne by later. -/
theorem Bears.mono {start : Site} {s s' : Stage} {id : NodeId} {node : Handle}
    (h : Bears start s id node)
    (hwindow : s.site.builder.window = some id → s'.site.builder.window = some id)
    (hnews : s.news <+: s'.news) : Bears start s' id node := by
  cases h with
  | window hw => exact .window (hwindow hw)
  | newcomer hborn hid => exact .newcomer (mem_born_of_isPrefix hnews hborn) hid
  | before hw hl => exact .before hw hl

/-- What a fault in a pass leaves. -/
def Broken (start : Site) (lines : List Line) (site : Site) : Prop :=
  ∃ s, Reached start lines s ∧ Slip start lines s site.host ∧
    site.builder.window = s.site.builder.window

/-- A pass between two commands: just the elements held back wait, and none of them for a parent
that is there.  Where `but` is given, its element has just come, and the elements that wait for it
are about to be attached. -/
structure Settled (start : Site) (lines : List Line) (news : List Newcomer) (but : Option NodeId)
    (site : Site) : Prop where
  reached : Reached start lines ⟨site, site.builder.held, news⟩
  clear : ∀ e ∈ site.builder.held, e.awaits = .parent →
    e.parent = but ∨ site.resolveParent? e.parent = none

section Course

open Build

variable {start : Site} {lines : List Line} {news : List Newcomer} {site : Site}
  {but : Option NodeId} {id : NodeId} {node parent : Handle}

theorem Settled.clear_stage (h : Settled start lines news none site) :
    (⟨site, site.builder.held, news⟩ : Stage).Clear := by
  intro e he hawaits
  rcases h.clear e he hawaits with hnone | hnone
  · show site.resolveParent? e.parent = none
    rw [hnone]
    rfl
  · exact hnone

/-- A fault without an edit. -/
theorem Reached.broken {s : Stage} (h : Reached start lines s) : Broken start lines s.site :=
  ⟨s, h, .still, rfl⟩

/-- **After the elements that wait for it are attached, nothing waits for a new parent.** -/
theorem leads_attachWaiting (hstart : Standing start.builder start.tree)
    (h : Settled start lines news but site) (hbut : but = none ∨ but = some id)
    (hbears : Bears start ⟨site, site.builder.held, news⟩ id parent) :
    Leads (attachWaiting id parent) site (fun _ => Settled start lines news none)
      (Broken start lines) := by
  refine (leads_attachWaiting_turns (fun s =>
    Reached start lines ⟨s, s.builder.held, news⟩ ∧
      Bears start ⟨s, s.builder.held, news⟩ id parent ∧ site.StaysUnresolved s)
    ?_ ⟨h.reached, hbears, .refl site⟩).mono ?_
  · rintro before e after s hheld hbefore he ⟨hreached, hbears, hstays⟩
    obtain ⟨hawaits, hword⟩ : e.awaits = .parent ∧ e.parent = some id := by
      simpa [Held.awaitsParent] using he
    rw [hheld] at hreached hbears
    -- The books do not hold the element back any more, but it is still in hand.
    have hjot := hreached.step (.jot { s.builder with held := before ++ after } rfl rfl)
    have hmem : e ∈ before ++ e :: after := by simp
    have hsound := hjot.sound hstart
    have hfit : Fit start lines ⟨{ s with builder := { s.builder with held := before ++ after } },
        before ++ e :: after, news⟩ e parent := by
      refine ⟨hmem, ?_, .inl hawaits⟩
      rw [hword]
      exact hbears.mono (fun hw => hw) List.prefix_rfl
    refine leads_append hsound.descends.anchored (hsound.loose_of_waiting hmem) (fun hopen => ?_)
      ⟨_, hjot, .place e parent hfit, rfl⟩
    refine ⟨?_, hbears.mono (fun hw => hw) List.prefix_rfl,
      hstays.trans (hsound.staysUnresolved_attach hmem hopen)⟩
    refine hjot.step (.place before after e parent rfl hfit (fun e' he' hparent => ?_) hopen)
    have hnot := hbefore e' he'
    simp only [Held.awaitsParent, hparent, decide_true, Bool.true_and,
      decide_eq_false_iff_not] at hnot
    rwa [hword]
  · rintro _ s ⟨⟨hreached, -, hstays⟩, hbuilder⟩
    refine ⟨hreached, fun e he hawaits => .inr ?_⟩
    -- What is still held back did not wait for this parent.
    rw [hbuilder, List.mem_filter] at he
    obtain ⟨hmem, hnot⟩ := he
    refine Site.resolveParent?_eq_none hstays ?_
    rcases h.clear e hmem hawaits with hword | hnone
    · rcases hbut with rfl | rfl
      · rw [hword]
        rfl
      · simp [Held.awaitsParent, hawaits, hword] at hnot
    · exact hnone

/-- An element in hand is attached, or held back until its parent is there. -/
theorem leads_attachOrHold (hstart : Standing start.builder start.tree) {e : Held}
    (hreached : Reached start lines ⟨site, site.builder.held ++ [e], news⟩)
    (hawaits : e.awaits = .parent)
    (hclear : ∀ e' ∈ site.builder.held, e'.awaits = .parent →
      e'.parent = but ∨ site.resolveParent? e'.parent = none)
    (hself : e.parent = but → ∀ p, site.resolveParent? e.parent = some p →
      ¬ site.tree.Open p e.node) :
    Leads (attachOrHold e) site (fun _ => Settled start lines news but) (Broken start lines) := by
  have hsound := hreached.sound hstart
  have hmem : e ∈ site.builder.held ++ [e] := by simp
  apply leads_get_bind
  cases hr : site.resolveParent? e.parent with
  | none =>
    have heq : { e with awaits := .parent } = e := by rw [← hawaits]
    apply leads_remember
    rw [heq]
    refine ⟨hreached.step (.jot _ rfl rfl), fun e' he' hparent => ?_⟩
    rcases List.mem_append.mp he' with he' | he'
    · exact hclear e' he' hparent
    · rw [List.mem_singleton.mp he']
      exact .inr hr
  | some p =>
    have hfit : Fit start lines ⟨site, site.builder.held ++ [e], news⟩ e p :=
      ⟨hmem, hsound.bears_of_resolveParent? hr, .inl hawaits⟩
    apply leads_append hsound.descends.anchored (hsound.loose_of_waiting hmem)
    · intro hopen
      have hstays := hsound.staysUnresolved_attach hmem hopen
      -- Whatever waits for the same parent would have been attached to it.
      have hfirst : ∀ e' ∈ site.builder.held, e'.awaits = .parent → e'.parent ≠ e.parent := by
        intro e' he' hparent heq
        rcases hclear e' he' hparent with hbut | hnone
        · exact hself (heq.symm.trans hbut) p hr hopen
        · rw [heq, hr] at hnone
          cases hnone
      have hnext := hreached.step
        (.place site.builder.held [] e p rfl hfit hfirst hopen)
      rw [List.append_nil] at hnext
      refine ⟨hnext, fun e' he' hparent => ?_⟩
      exact (hclear e' he' hparent).imp_right (Site.resolveParent?_eq_none hstays)
    · exact ⟨_, hreached, .place e p hfit, rfl⟩

/-- The owner of a new popup among the elements held back. -/
theorem leads_ownerOf {tag : String} {word : Option NodeId} {fault : Site → Prop}
    {ok : Option Held → Site → Prop}
    (hnone : ok none site)
    (hsome : ∀ before owner after, site.builder.held = before ++ owner :: after →
      owner.awaits = .popup → word = some owner.id → tag = popupTag →
      ok (some owner)
        { site with builder := { site.builder with held := before ++ after } }) :
    Leads (ownerOf tag word) site ok fault := by
  unfold ownerOf
  cases word with
  | none => exact leads_pure hnone
  | some word =>
    by_cases htag : tag = popupTag
    · simp only [if_pos htag]
      refine leads_get_bind (leads_remember_bind (leads_pure ?_))
      cases hfind : site.builder.held.find? (·.awaitsPopup word) with
      | none =>
        have hsame : site.builder.held.eraseP (·.awaitsPopup word) = site.builder.held :=
          List.eraseP_of_forall_not (List.find?_eq_none.mp hfind)
        simpa only [hsame] using hnone
      | some owner =>
        obtain ⟨hpopup, before, after, hheld, hbefore⟩ :=
          List.find?_eq_some_iff_append.mp hfind
        obtain ⟨hawaits, hid⟩ : owner.awaits = .popup ∧ owner.id = word := by
          simpa [Held.awaitsPopup] using hpopup
        have hfirst : (owner :: after).eraseP (·.awaitsPopup word) = after :=
          List.eraseP_cons_of_pos hpopup
        have herase : site.builder.held.eraseP (·.awaitsPopup word) = before ++ after := by
          rw [hheld, List.eraseP_append_right _ fun e he => by simpa using hbefore e he, hfirst]
        simp only [herase]
        exact hsome before owner after hheld hawaits (congrArg some hid.symm) htag
    · simp only [if_neg htag]
      exact leads_pure hnone

/-- A popup is put into its owner, and the owner is attached, or held back for its parent. -/
theorem leads_enter (hstart : Standing start.builder start.tree) {before after : List Held}
    {owner popup : Held} (hheld : site.builder.held = before ++ after)
    (hreached : Reached start lines ⟨site, before ++ owner :: after ++ [popup], news⟩)
    (hentry : Entry start ⟨site, before ++ owner :: after ++ [popup], news⟩ owner popup)
    (hclear : ∀ e ∈ before ++ after, e.awaits = .parent →
      e.parent = but ∨ site.resolveParent? e.parent = none)
    (hbut : but = none ∨ but = some popup.id ∧ site.builder.window ≠ some popup.id ∧
      site.builder.created.get? popup.id = some popup.node) :
    Leads (edit (Host.append owner.node popup.node) >>= fun _ => attachOrHold owner) site
      (fun _ => Settled start lines news but) (Broken start lines) := by
  have hsound := hreached.sound hstart
  have hloose := hsound.loose_of_waiting hentry.mem_popup
  refine Leads.bind (leads_append hsound.descends.anchored hloose (fun hopen => ?_) ?_)
    fun _ s hs => hs
  · have hin := hreached.step (.enter before after owner popup rfl hentry hopen)
    rw [← hheld] at hin hclear
    apply leads_attachOrHold (e := { owner with awaits := .parent }) hstart hin rfl
    · intro e he hparent
      exact (hclear e he hparent).imp_right
        (Site.resolveParent?_eq_none (hsound.staysUnresolved_attach hentry.mem_popup hopen))
    · intro hself p hp hagain
      -- The owner would go below its own popup.
      rcases hbut with rfl | ⟨rfl, hw, hcreated⟩
      · rw [hself] at hp
        cases hp
      · -- It names the popup as its parent, which is below it by now.
        rw [hself] at hp
        change Site.resolve? _ popup.id = some p at hp
        have heq : p = popup.node :=
          Option.some.inj (hp.symm.trans (Site.resolve?_of_created hw hcreated))
        rw [heq] at hagain
        refine hagain.cycle (.head ?_ (.refl _))
        rw [Site.tree_attach, Tree.parent?_attachLast _ _ _ hloose.lt, if_pos rfl]
  · exact ⟨_, hreached, .enter owner popup hentry, rfl⟩

/-- A popup that has just come may be put into the owner that waits for it. -/
theorem entry_of_new {held : List Held} {owner popup : Held} {tag : String}
    (howner : owner ∈ held) (hawaits : owner.awaits = .popup)
    (hword : popup.parent = some owner.id) (htag : (Vocabulary.resolve tag).2 = popupTag)
    (hborn : (.element popup.id tag popup.parent, popup.node) ∈
      (⟨site, held ++ [popup], news⟩ : Stage).born start)
    (hclear : ∀ e ∈ held, e.awaits = .parent →
      e.parent = but ∨ site.resolveParent? e.parent = none)
    (hbut : but = none ∨ but = some popup.id) :
    Entry start ⟨site, held ++ [popup], news⟩ owner popup where
  mem_owner := List.mem_append_left _ howner
  mem_popup := List.mem_append_right _ List.mem_cons_self
  awaits := hawaits
  parent := hword
  tag := ⟨_, hborn, rfl, by simp [Newcomer.isPopupOf, htag, hword]⟩
  clear e he hparent := by
    rcases List.mem_append.mp he with he | he
    · rcases hclear e he hparent with hsame | hnone
      · rcases hbut with rfl | rfl
        · -- No parent word, so no parent.
          exact .inr (.inr (by rw [hsame]; rfl))
        · exact .inr (.inl hsame)
      · exact .inr (.inr hnone)
    · exact .inl (List.mem_singleton.mp he)

/-- A new element is put into its place, or held back. -/
theorem leads_settle (hstart : Standing start.builder start.tree) {line : Line} {tag : String}
    {word : Option NodeId}
    (hreached : Reached start lines
      ⟨site, site.builder.held ++ [Held.ofNew line id tag word node], news⟩)
    (hborn : (.element id tag word, node) ∈
      (⟨site, site.builder.held, news⟩ : Stage).born start)
    (hclear : ∀ e ∈ site.builder.held, e.awaits = .parent →
      e.parent = but ∨ site.resolveParent? e.parent = none)
    (hbut : but = none ∨ but = some id ∧ site.builder.window ≠ some id ∧
      site.builder.created.get? id = some node) :
    Leads (settle (Vocabulary.resolve tag).2 ⟨id, node, word, .parent, line⟩) site
      (fun _ => Settled start lines news but) (Broken start lines) := by
  have hsound := hreached.sound hstart
  unfold settle
  by_cases howner : popupOwnerTags.contains (Vocabulary.resolve tag).2
  · rw [if_pos howner]
    have hnew : Held.ofNew line id tag word node = ⟨id, node, word, .popup, line⟩ := by
      simp only [Held.ofNew, howner, if_true]
    rw [hnew] at hreached
    refine leads_remember ⟨hreached.step (.jot _ rfl rfl), fun e he hawaits => ?_⟩
    -- The new owner waits for a popup, not for a parent.
    rcases List.mem_append.mp he with he | he
    · exact hclear e he hawaits
    · rw [List.mem_singleton.mp he] at hawaits
      cases hawaits
  · rw [if_neg howner]
    have hnew : Held.ofNew line id tag word node = ⟨id, node, word, .parent, line⟩ := by
      simp only [Held.ofNew, howner, Bool.false_eq_true, if_false]
    rw [hnew] at hreached hsound
    refine Leads.bind (leads_ownerOf ?_ ?_) fun _ s hs => hs
    · -- Nothing waits for this popup, or it is none.
      apply leads_attachOrHold hstart hreached rfl hclear
      intro hword p hp hopen
      rcases hbut with rfl | ⟨rfl, hself⟩
      · rw [hword] at hp
        cases hp
      · -- An element that names itself as its parent finds no place.
        rw [hword] at hp
        obtain rfl := Option.some.inj ((Site.resolve?_of_created hself.1 hself.2).symm.trans hp)
        exact hopen.cycle (.refl _)
    · intro before owner after hheld hawaits hword htag
      replace hword : word = some owner.id := hword
      -- The owner is taken in hand, and waits on beside the popup.
      have hout : Reached start lines ⟨{ site with builder := { site.builder with
          held := before ++ after } },
          before ++ owner :: after ++ [⟨id, node, word, .parent, line⟩], news⟩ := by
        rw [← hheld]
        exact hreached.step (.jot { site.builder with held := before ++ after } rfl rfl)
      have howner : owner ∈ before ++ owner :: after := by simp
      have hentry : Entry start ⟨{ site with builder := { site.builder with
          held := before ++ after } },
          before ++ owner :: after ++ [⟨id, node, word, .parent, line⟩], news⟩
          owner ⟨id, node, word, .parent, line⟩ := by
        refine entry_of_new howner hawaits hword htag hborn ?_ (hbut.imp_right And.left)
        rw [← hheld]
        exact hclear
      exact leads_enter hstart rfl hout hentry
        (fun e he hparent => hclear e (mem_of_mem_place hheld he) hparent) hbut

/-! ## §2 Commands -/

/-- The root gets its name, and the elements that wait for it are attached. -/
theorem leads_nameWindow (hstart : Standing start.builder start.tree)
    (h : Settled start lines news none site) (id : NodeId)
    (hline : ∃ line ∈ lines, line.command = .window id) :
    Leads (nameWindow id) site (fun _ => Settled start lines news none) (Broken start lines) := by
  apply leads_get_bind
  cases hw : site.builder.window with
  | some window =>
    -- The first name stays.
    by_cases heq : window = id
    · simp only [if_pos heq]
      exact leads_attachWaiting hstart h (.inl rfl) (.window (hw.trans (congrArg some heq)))
    · simp only [if_neg heq]
      exact leads_pure h
  | none =>
    refine leads_remember_bind (leads_attachWaiting hstart ?_ (.inr rfl)
      (.window rfl))
    refine ⟨h.reached.step (.name id hw hline), fun e he hparent => ?_⟩
    -- Only the elements that wait for this name see a change.
    cases hword : e.parent with
    | none => exact .inr rfl
    | some word =>
      by_cases heq : word = id
      · exact .inl (congrArg some heq)
      · refine .inr (Site.resolve?_eq_none_iff.mpr ⟨?_, ?_⟩)
        · exact fun hname => heq (Option.some.inj hname).symm
        · have hnone := h.clear_stage e he hparent
          rw [hword] at hnone
          exact (Site.resolve?_eq_none_iff.mp hnone).2

/-- An element is created, with the listener of its tag. -/
theorem leads_bringForth (h : Settled start lines news none site) (line : Line) (id : NodeId)
    (tag : String) (word : Option NodeId)
    (hnews : news ++ [.element id tag word] <+: newcomers lines) :
    Leads (bringForth id (Vocabulary.resolve tag).1 (Vocabulary.resolve tag).2) site
      (fun node site' => node = site.tree.slots.size ∧
        Reached start lines ⟨site', site.builder.held ++ [Held.ofNew line id tag word node],
          news ++ [.element id tag word]⟩ ∧
        site'.builder = (site.bring id (Vocabulary.resolve tag)).builder ∧
        ∀ w, site'.resolve? w = (site.bring id (Vocabulary.resolve tag)).resolve? w)
      (Broken start lines) := by
  have hbring := h.reached.step (.bring line id tag word hnews)
  refine Leads.bind (leads_createElement _ _ _ (leads_remember_bind ?_) ?_) fun _ s hs => hs
  · cases wiring? (Vocabulary.resolve tag).2 id with
    | none => exact leads_pure ⟨rfl, hbring, rfl, fun _ => rfl⟩
    | some listener =>
      refine Leads.bind (leads_quiet _ (Tree.atomic_addListener _ _)
        (fun _ _ => Tree.sameShape_addListener) (fun host hshape hjournal => ?_) ?_)
        fun _ s hs => hs
      · exact leads_pure ⟨rfl, hbring.step (.quiet host _ hshape rfl hjournal), rfl,
          fun w => Site.resolve?_quiet hshape w⟩
      · exact ⟨_, hbring, .refused _ rfl, rfl⟩
  · exact ⟨_, h.reached, .refused _ rfl, rfl⟩

/-- When an element is created, only what waits for its id can be attached from now on; and if its id
is the window's, nothing waits for it. -/
theorem Settled.clear_bring (h : Settled start lines news none site)
    (hsound : Sound start ⟨site, site.builder.held, news⟩) (kind : Vocabulary × String)
    (hbut : site.builder.window = some id ∧ but = none ∨
      site.builder.window ≠ some id ∧ but = some id) :
    ∀ e ∈ site.builder.held, e.awaits = .parent →
      e.parent = but ∨ (site.bring id kind).resolveParent? e.parent = none := by
  intro e he hparent
  have hnone := h.clear_stage e he hparent
  cases hword : e.parent with
  | none => exact .inr rfl
  | some w =>
    rw [hword] at hnone
    by_cases heq : id = w
    · subst heq
      rcases hbut with ⟨hw, -⟩ | ⟨-, rfl⟩
      · exact absurd hw (Site.resolve?_eq_none_iff.mp hnone).1
      · exact .inl rfl
    · exact .inr (hsound.resolve?_bring_eq_none heq kind hnone)

/-- An element is created, it finds its place or is held back, and so do those that wait for it. -/
theorem leads_create (hstart : Standing start.builder start.tree)
    (h : Settled start lines news none site) (line : Line) (id : NodeId) (tag : String)
    (word : Option NodeId) (hnews : news ++ [.element id tag word] <+: newcomers lines) :
    Leads (create line id tag word) site
      (fun _ => Settled start lines (news ++ [.element id tag word]) none)
      (Broken start lines) := by
  have hsound := h.reached.sound hstart
  have hborn : (Newcomer.element id tag word, site.tree.slots.size) ∈
      RemoteUi.born start.tree.slots.size (news ++ [.element id tag word]) :=
    mem_born_append_singleton.mpr (.inr ⟨rfl, hsound.size⟩)
  apply Leads.bind (leads_bringForth h line id tag word hnews)
  rintro _ s ⟨rfl, hreached, hbuilder, hresolve⟩
  -- A window's id denotes the root throughout; another one denotes the element from now on.
  obtain ⟨but, hcases⟩ : ∃ but : Option NodeId,
      site.builder.window = some id ∧ but = none ∨ site.builder.window ≠ some id ∧ but = some id := by
    by_cases hw : site.builder.window = some id
    · exact ⟨none, .inl ⟨hw, rfl⟩⟩
    · exact ⟨some id, .inr ⟨hw, rfl⟩⟩
  have hheld : s.builder.held = site.builder.held := by rw [hbuilder]; rfl
  have hclear : ∀ e ∈ s.builder.held, e.awaits = .parent →
      e.parent = but ∨ s.resolveParent? e.parent = none := by
    intro e he hparent
    rw [hheld] at he
    exact (h.clear_bring hsound _ hcases e he hparent).imp_right
      (Site.resolveParent?_eq_none fun w hw => (hresolve w).trans hw)
  rw [← hheld] at hreached
  refine Leads.bind (leads_settle hstart hreached hborn hclear ?_) fun _ s' hs' => ?_
  · rcases hcases with ⟨-, rfl⟩ | ⟨hw, rfl⟩
    · exact .inl rfl
    · refine .inr ⟨rfl, ?_, ?_⟩
      · rw [hbuilder]
        exact hw
      · rw [hbuilder, Site.created_bring]
        exact Dict.get?_insert_self ..
  · refine leads_attachWaiting hstart hs' ?_ (.newcomer hborn rfl)
    rcases hcases with ⟨-, rfl⟩ | ⟨-, rfl⟩
    · exact .inl rfl
    · exact .inr rfl

/-- Setting a key other than that of texts leaves all nodes in their places. -/
theorem leads_setKey_of_ne {waiting : List Held} (key : String) (value : Option String)
    (hkey : key ≠ textKey) (h : Reached start lines ⟨site, waiting, news⟩) :
    Leads (setKey id key value) site
      (fun _ site' => Reached start lines ⟨site', waiting, news⟩ ∧ site'.builder = site.builder ∧
        ∀ w, site'.resolve? w = site.resolve? w) (Broken start lines) := by
  -- Every edit that is asked for has the same outcome.
  have hquiet : ∀ {s : Site} (call : Call) {act : Edit Unit}, Tree.Atomic act →
      (∀ tree tree', act tree = .ok () tree' → tree.SameShape tree') → call.placement? = none →
      Reached start lines ⟨s, waiting, news⟩ →
      Leads (edit (Host.perform call act)) s
        (fun _ s' => Reached start lines ⟨s', waiting, news⟩ ∧ s'.builder = s.builder ∧
          ∀ w, s'.resolve? w = s.resolve? w) (Broken start lines) :=
    fun call act hact hshape hcall hs => leads_quiet call hact hshape
      (fun host hsame hjournal => ⟨hs.step (.quiet host call hsame hcall hjournal), rfl,
        fun w => Site.resolve?_quiet hsame w⟩)
      ⟨_, hs, .refused call hcall, rfl⟩
  apply leads_resolve_bind h.broken
  intro node hr
  rw [if_neg hkey]
  split
  · unfold setFlag
    split
    · exact hquiet _ (Tree.atomic_setAttribute _ _ _) (fun _ _ => Tree.sameShape_setAttribute)
        rfl h
    · exact hquiet _ (Tree.atomic_removeAttribute _ _)
        (fun _ _ => Tree.sameShape_removeAttribute) rfl h
  split
  · exact hquiet _ (Tree.atomic_invoke _ _) (fun _ _ => Tree.sameShape_invoke) rfl h
  split
  · refine Leads.bind (hquiet _ (Tree.atomic_setAttribute _ _ _)
      (fun _ _ => Tree.sameShape_setAttribute) rfl h) fun _ s₁ h₁ => ?_
    refine Leads.bind (hquiet _ (Tree.atomic_setProperty _ _ _)
      (fun _ _ => Tree.sameShape_setProperty) rfl h₁.1) fun _ s₂ h₂ => ?_
    refine (hquiet _ (Tree.atomic_setAttribute _ _ _)
      (fun _ _ => Tree.sameShape_setAttribute) rfl h₂.1).mono fun _ s₃ h₃ => ?_
    exact ⟨h₃.1, h₃.2.1.trans (h₂.2.1.trans h₁.2.1),
      fun w => (h₃.2.2 w).trans ((h₂.2.2 w).trans (h₁.2.2 w))⟩
  · exact hquiet _ (Tree.atomic_setAttribute _ _ _) (fun _ _ => Tree.sameShape_setAttribute)
      rfl h

/-- A text is created and put into its place. -/
theorem leads_addText (hstart : Standing start.builder start.tree)
    (h : Settled start lines news none site) (content : String)
    (hnews : news ++ [.text id content] <+: newcomers lines)
    (hresolve : site.resolve? id = some node) :
    Leads (addText node content) site
      (fun _ => Settled start lines (news ++ [.text id content]) none) (Broken start lines) := by
  have hsound := h.reached.sound hstart
  have hempty : (site.write content).tree.children site.tree.slots.size = [] := by
    rw [Site.tree_write, Tree.children_push]
    exact Tree.children_eq_nil_of_le (Nat.le_refl _)
  refine leads_createText_bind content (leads_append
    (hsound.descends.anchored.push_text content) (hsound.loose_write content) (fun hopen => ?_) ?_)
  · have helement := Site.isSome_element?_of_open_write hopen
    refine ⟨h.reached.step (.text id content node hnews h.clear_stage hresolve helement),
      fun e he hawaits => .inr ?_⟩
    exact Site.resolveParent?_eq_none (hsound.staysUnresolved_text content helement)
      (h.clear_stage e he hawaits)
  · rw [hempty]
    exact ⟨_, h.reached, .text id content node hnews, rfl⟩

/-- An attached element is removed. -/
theorem leads_remove (hstart : Standing start.builder start.tree)
    (h : Settled start lines news none site) (hline : ∃ line ∈ lines, line.command = .remove id) :
    Leads (Build.remove id) site (fun _ => Settled start lines news none) (Broken start lines) := by
  have hsound := h.reached.sound hstart
  apply leads_get_bind
  cases hlookup : site.host.tree.lookup? id with
  | none => exact h.reached.broken
  | some node =>
    apply leads_get_bind
    cases hparent : site.host.parent? node with
    | none => exact h.reached.broken
    | some parent =>
      -- A host that tells of a parent tells the truth.
      have hp : site.tree.parent? node = some parent := by
        unfold Host.parent? at hparent
        split at hparent
        · cases hparent
        · exact hparent
      have hcut := h.reached.step (.remove id parent node hline hlookup hp)
      refine Leads.bind (leads_edit_perform _ (Tree.atomic_remove parent node)
        (fun u tree hact => ?_) ?_) fun _ s hs => hs
      · rw [Tree.remove_eq, if_pos hp] at hact
        cases hact
        refine leads_remember ⟨hcut, fun e he hawaits => .inr ?_⟩
        exact Site.resolveParent?_eq_none (hsound.staysUnresolved_cut id parent node)
          (h.clear_stage e he hawaits)
      · exact ⟨_, h.reached, .refused _ rfl, rfl⟩

/-- **Each command leads from rest to rest**, with its newcomer added, or to a fault. -/
theorem leads_perform (hstart : Standing start.builder start.tree) {done : List Line} {line : Line}
    (hmore : done ++ [line] <+: lines) (h : Settled start lines (newcomers done) none site) :
    Leads (perform line) site
      (fun _ => Settled start lines (newcomers (done ++ [line])) none) (Broken start lines) := by
  have hnews := newcomers_isPrefix hmore
  have hline : line ∈ lines := hmore.subset (by simp)
  unfold perform
  cases hc : line.command with
  | window id =>
    rw [newcomers_concat_of_none (by simp [Line.newcomer?, hc])]
    exact leads_nameWindow hstart h id ⟨line, hline, hc⟩
  | create id tag word =>
    have hnc : line.newcomer? = some (.element id tag word) := by simp [Line.newcomer?, hc]
    rw [newcomers_concat_of_some hnc] at hnews ⊢
    exact leads_create hstart h line id tag word hnews
  | remove id =>
    rw [newcomers_concat_of_none (by simp [Line.newcomer?, hc])]
    exact leads_remove hstart h ⟨line, hline, hc⟩
  | set id key value =>
    simp only
    by_cases hlate : lateKeys.contains key
    · -- A late attribute is put aside; it is not the key of texts.
      have hkey : key ≠ textKey := by
        rintro rfl
        revert hlate
        decide
      rw [if_pos hlate, newcomers_concat_of_none (by simp [Line.newcomer?, hc, hkey])]
      exact leads_remember ⟨h.reached.step (.jot _ rfl rfl), h.clear⟩
    · rw [if_neg hlate]
      by_cases hkey : key = textKey
      · have hnc : line.newcomer? = some (.text id (value.getD "")) := by
          simp [Line.newcomer?, hc, hkey]
        rw [newcomers_concat_of_some hnc] at hnews ⊢
        apply leads_resolve_bind h.reached.broken
        intro node hr
        rw [if_pos hkey]
        exact leads_addText hstart h (value.getD "") hnews hr
      · rw [newcomers_concat_of_none (by simp [Line.newcomer?, hc, hkey])]
        apply (leads_setKey_of_ne key value hkey h.reached).mono
        rintro _ s ⟨hreached, hbuilder, hresolve⟩
        have hheld : s.builder.held = site.builder.held := by rw [hbuilder]
        refine ⟨by rw [hheld]; exact hreached, fun e he hawaits => .inr ?_⟩
        rw [hheld] at he
        exact Site.resolveParent?_eq_none (fun w hw => (hresolve w).trans hw)
          (h.clear_stage e he hawaits)

end Course

end RemoteUi
