import RemoteUi.Proofs.Build.Materialisation

/-!
# Popups of elements that wait

Where the popup of a menu is while the menu waits.  A popup that came before its menu waits for it; a
popup that came after it, while it waits, is put into it.  So when a menu stops waiting for a popup,
its first popup is below it.

* §1 replies whose new ids are no other node's, ever;
* §2 the invariant;
* §3 what each step keeps of it.
-/

namespace RemoteUi

open RemoteUi.Wire

/-! ## §1 Ids that are their own -/

/-- The ids of the new elements differ from one another, from all names that the root has or is
given, and from the ids of the attached elements. -/
structure OwnIds (builder : Builder) (before : Tree) (lines : List Line) : Prop
    extends FreshIds before builder.window lines where
  names : ∀ id ∈ newIds (newcomers lines), ∀ line ∈ lines, line.command ≠ .window id

variable {start : Site} {lines : List Line} {s s' : Stage} {id : NodeId} {node parent : Handle}
  {nc nc' : Newcomer}

/-! ## §2 The invariant -/

/-- Where popups are at a stage of a pass. -/
structure Popups (start : Site) (lines : List Line) (s : Stage) : Prop where
  window : ∀ id ∈ newIds (newcomers lines), s.site.builder.window ≠ some id
  /-- An element that waits is remembered. -/
  created : ∀ e ∈ s.waiting, s.site.builder.created.get? e.id = some e.node
  owners : ∀ e ∈ s.waiting, e.awaits = .popup → ∀ nc, (nc, e.node) ∈ s.born start → nc.ownsPopup
  /-- The popups of an element that waits for one are in it, or they wait. -/
  awaiting : ∀ e ∈ s.waiting, e.awaits = .popup → ∀ nc n, (nc, n) ∈ s.born start →
    nc.isPopupOf e.id → s.tree.parent? n = some e.node ∨ ∃ e' ∈ s.waiting, e'.node = n
  /-- The popups of an element that is yet to come wait. -/
  unborn : ∀ id ∈ newIds (newcomers lines), id ∉ newIds s.news → ∀ nc n, (nc, n) ∈ s.born start →
    nc.isPopupOf id → ∃ e' ∈ s.waiting, e'.node = n
  /-- An owner that waits for its parent only has its first popup in it. -/
  released : ∀ e ∈ s.waiting, e.awaits = .parent → ∀ nc, (nc, e.node) ∈ s.born start →
    nc.ownsPopup → ∃ popup n, s.news.find? (·.isPopupOf e.id) = some popup ∧
      (popup, n) ∈ s.born start ∧ s.tree.parent? n = some e.node

/-- An element that waits is the newcomer at its node. -/
theorem Sound.eq_of_waiting (hsound : Sound start s) {e : Held} (he : e ∈ s.waiting)
    (hborn : (nc, e.node) ∈ s.born start) : ∃ tag, nc = .element e.id tag e.parent := by
  obtain ⟨tag, hborn'⟩ := hsound.waiting e he
  exact ⟨tag, eq_of_mem_born hborn hborn'⟩

/-- A popup that waits names the element that it is the popup of. -/
theorem Sound.parent_of_isPopupOf (hsound : Sound start s) {e : Held} (he : e ∈ s.waiting)
    (hborn : (nc, e.node) ∈ s.born start) (hpopup : nc.isPopupOf id) : e.parent = some id := by
  obtain ⟨tag, rfl⟩ := hsound.eq_of_waiting he hborn
  obtain ⟨_, _, heq, -⟩ := Newcomer.isPopupOf_iff.mp hpopup
  exact (Newcomer.element.inj heq).2.2

/-- The id of an element that waits is the id of a newcomer. -/
theorem Sound.mem_newIds_of_waiting (hsound : Sound start s) {e : Held} (he : e ∈ s.waiting) :
    e.id ∈ newIds s.news := by
  obtain ⟨tag, hborn⟩ := hsound.waiting e he
  exact mem_newIds_of_mem_born hborn rfl

/-- A node that has a place keeps it when another one gets its own. -/
theorem Sound.parent?_attach (hsound : Sound start s) {e : Held} (he : e ∈ s.waiting)
    {n m : Handle} (h : s.tree.parent? n = some m) :
    (s.site.attach parent e.node).tree.parent? n = some m := by
  have hne : n ≠ e.node := by
    rintro rfl
    rw [hsound.loose e he] at h
    cases h
  rw [Site.tree_attach, Tree.parent?_attachLast _ _ _ (hsound.loose_of_waiting he).lt, if_neg hne]
  exact h

/-- The first popup of an owner stays the first. -/
theorem find?_of_isPrefix {news more : List Newcomer} {p : Newcomer → Bool} (h : news <+: more)
    (hfind : news.find? p = some nc) : more.find? p = some nc := by
  obtain ⟨rest, rfl⟩ := h
  rw [List.find?_append, hfind]
  rfl

namespace Popups

/-- **An id of a newcomer is borne by the newcomer only.** -/
theorem newcomer_of_bears (hsound : Sound start s) (hown : OwnIds start.builder start.tree lines)
    (h : Popups start lines s) (hid : id ∈ newIds (newcomers lines))
    (hb : Bears start s id node) : ∃ nc, (nc, node) ∈ s.born start ∧ nc.id? = some id := by
  cases hb with
  | window hw => exact absurd hw (h.window id hid)
  | newcomer hborn hncid => exact ⟨_, hborn, hncid⟩
  | before hw hl =>
    rw [hown.lookup?_eq_none hsound.standing.anchored hid] at hl
    cases hl

/-- An element that waits is resolved by its id. -/
theorem resolve?_waiting (hsound : Sound start s) (hnews : s.news <+: newcomers lines)
    (h : Popups start lines s) {e : Held} (he : e ∈ s.waiting) :
    s.site.resolve? e.id = some e.node :=
  Site.resolve?_of_created
    (h.window e.id (newIds_subset hnews (hsound.mem_newIds_of_waiting he))) (h.created e he)

/-- What an element that waits for a parent waits for, a popup does. -/
theorem awaits_of_isPopupOf (h : Popups start lines s) {e : Held} (he : e ∈ s.waiting)
    (hborn : (nc, e.node) ∈ s.born start) (hpopup : nc.isPopupOf id) : e.awaits = .parent := by
  cases hawaits : e.awaits with
  | parent => rfl
  | popup =>
    have howns := h.owners e he hawaits nc hborn
    rw [Newcomer.ownsPopup_of_isPopupOf hpopup] at howns
    cases howns

theorem init (hown : OwnIds start.builder start.tree lines) :
    Popups start lines ⟨Build.siteAfter Build.reset start, [], []⟩ where
  window := hown.window
  created e he := by cases he
  owners e he := by cases he
  awaiting e he := by cases he
  unborn id hid hnot nc n hborn := by cases hborn
  released e he := by cases he

/-! ## §3 What the steps keep -/

/-- A step that neither brings nor places a node: it may take away what is attached. -/
theorem of_waiting_eq (h : Popups start lines s) {site : Site}
    (hwindow : ∀ id ∈ newIds (newcomers lines), site.builder.window ≠ some id)
    (hcreated : ∀ e ∈ s.waiting, site.builder.created.get? e.id = some e.node)
    (hparent : ∀ e ∈ s.waiting, ∀ n, s.tree.parent? n = some e.node →
      site.tree.parent? n = some e.node) :
    Popups start lines { s with site } where
  window := hwindow
  created := hcreated
  owners := h.owners
  awaiting e he hawaits nc n hborn hpopup :=
    (h.awaiting e he hawaits nc n hborn hpopup).imp_left (hparent e he n)
  unborn := h.unborn
  released e he hawaits nc hborn howns := by
    obtain ⟨popup, n, hfind, hpopup, hp⟩ := h.released e he hawaits nc hborn howns
    exact ⟨popup, n, hfind, hpopup, hparent e he n hp⟩

/-- **A new owner finds its popups waiting, and a new popup waits.** -/
theorem bring (hsound : Sound start s) (hown : OwnIds start.builder start.tree lines)
    (h : Popups start lines s) (line : Line) (id : NodeId) (tag : String) (word : Option NodeId)
    (hnews : s.news ++ [.element id tag word] <+: newcomers lines) :
    Popups start lines ⟨s.site.bring id (Vocabulary.resolve tag),
      s.waiting ++ [Held.ofNew line id tag word s.tree.slots.size],
      s.news ++ [.element id tag word]⟩ := by
  have hnodup := nodup_newIds_of_isPrefix hnews hown.nodup
  have hid : id ∈ newIds (newcomers lines) :=
    mem_newIds_iff.mpr ⟨tag, word, hnews.subset (by simp)⟩
  -- The new id is that of no older newcomer.
  have hfresh : id ∉ newIds s.news := by
    intro hmem
    rw [newIds, List.filterMap_append] at hnodup
    exact List.disjoint_of_nodup_append hnodup hmem (by simp [Newcomer.id?])
  have hold : ∀ {nc n}, (nc, n) ∈ s.born start → (nc, n) ∈
      RemoteUi.born start.tree.slots.size (s.news ++ [.element id tag word]) :=
    fun hborn => mem_born_append_singleton.mpr (.inl hborn)
  have hparent : ∀ n, (s.site.bring id (Vocabulary.resolve tag)).tree.parent? n =
      s.tree.parent? n := fun n => Tree.parent?_withElement ..
  have hsize : ∀ {e : Held}, e ∈ s.waiting → e.node ≠ start.tree.slots.size + s.news.length := by
    intro e he
    rw [← hsound.size]
    exact Nat.ne_of_lt (hsound.loose_of_waiting he).lt
  refine { window := h.window, created := ?created, owners := ?owners, awaiting := ?awaiting,
           unborn := ?unborn, released := ?released }
  case created =>
    intro e he
    rw [Site.created_bring, Dict.get?_insert]
    rcases List.mem_append.mp he with he | he
    · have hne : id ≠ e.id := by
        intro heq
        rw [heq] at hfresh
        exact hfresh (hsound.mem_newIds_of_waiting he)
      rw [if_neg hne]
      exact h.created e he
    · rw [List.mem_singleton.mp he]
      exact if_pos rfl
  case owners =>
    intro e he hawaits nc hborn
    rcases List.mem_append.mp he with he | he
    · rcases mem_born_append_singleton.mp hborn with hborn | ⟨-, hnode⟩
      · exact h.owners e he hawaits nc hborn
      · exact absurd hnode (hsize he)
    · obtain rfl := List.mem_singleton.mp he
      obtain rfl := eq_of_mem_born hborn
        (mem_born_append_singleton.mpr (.inr ⟨rfl, hsound.size⟩))
      -- The tag decides both what it waits for and whether it owns popups.
      simp only [Held.ofNew] at hawaits
      split at hawaits
      · assumption
      · cases hawaits
  case awaiting =>
    intro e he hawaits nc n hborn hpopup
    rw [Stage.tree, hparent]
    rcases mem_born_append_singleton.mp hborn with hborn | ⟨rfl, rfl⟩
    · rcases List.mem_append.mp he with he | he
      · apply (h.awaiting e he hawaits nc n hborn hpopup).imp_right
        rintro ⟨e', he', hnode⟩
        exact ⟨e', List.mem_append_left _ he', hnode⟩
      · -- The popups of the new element came before it, and wait since.
        obtain rfl := List.mem_singleton.mp he
        obtain ⟨e', he', hnode⟩ := h.unborn id hid hfresh nc n hborn hpopup
        exact .inr ⟨e', List.mem_append_left _ he', hnode⟩
    · exact .inr ⟨_, List.mem_append_right _ List.mem_cons_self, hsound.size⟩
  case unborn =>
    intro id' hid' hnot nc n hborn hpopup
    rcases mem_born_append_singleton.mp hborn with hborn | ⟨rfl, rfl⟩
    · have hnot' : id' ∉ newIds s.news := by
        intro hmem
        exact hnot (newIds_subset (List.prefix_append ..) hmem)
      obtain ⟨e', he', hnode⟩ := h.unborn id' hid' hnot' nc n hborn hpopup
      exact ⟨e', List.mem_append_left _ he', hnode⟩
    · exact ⟨_, List.mem_append_right _ List.mem_cons_self, hsound.size⟩
  case released =>
    intro e he hawaits nc hborn howns
    rw [Stage.tree]
    rcases List.mem_append.mp he with he | he
    · rcases mem_born_append_singleton.mp hborn with hborn | ⟨-, hnode⟩
      · obtain ⟨popup, n, hfind, hpopup, hp⟩ := h.released e he hawaits nc hborn howns
        exact ⟨popup, n, find?_of_isPrefix (List.prefix_append ..) hfind, hold hpopup,
          (hparent n).trans hp⟩
      · exact absurd hnode (hsize he)
    · obtain rfl := List.mem_singleton.mp he
      obtain rfl := eq_of_mem_born hborn
        (mem_born_append_singleton.mpr (.inr ⟨rfl, hsound.size⟩))
      -- A new owner waits for a popup.
      simp only [Held.ofNew] at hawaits
      simp only [Newcomer.ownsPopup] at howns
      rw [if_pos howns] at hawaits
      cases hawaits

/-- **A popup that waits is put into the element that it is the popup of.** -/
theorem place (hsound : Sound start s) (hown : OwnIds start.builder start.tree lines)
    (hnews : s.news <+: newcomers lines) (h : Popups start lines s) {before after : List Held}
    {e₀ : Held} (hwaiting : s.waiting = before ++ e₀ :: after)
    (hfit : Fit start lines s e₀ parent) :
    Popups start lines ⟨s.site.attach parent e₀.node, before ++ after, s.news⟩ := by
  have hmem : ∀ {e : Held}, e ∈ before ++ after → e ∈ s.waiting := mem_of_mem_place hwaiting
  have hplaced : (s.site.attach parent e₀.node).tree.parent? e₀.node = some parent := by
    rw [Site.tree_attach, Tree.parent?_attachLast _ _ _ (hsound.loose_of_waiting hfit.mem).lt,
      if_pos rfl]
  -- If it is a popup, the node below which it is put bears the id of its owner.
  have howner : ∀ {nc : Newcomer} {id : NodeId}, (nc, e₀.node) ∈ s.born start → nc.isPopupOf id →
      id ∈ newIds (newcomers lines) → ∃ nc', (nc', parent) ∈ s.born start ∧ nc'.id? = some id := by
    intro nc id hborn hpopup hid
    have hb := hfit.bears
    rw [hsound.parent_of_isPopupOf hfit.mem hborn hpopup, Option.getD_some] at hb
    exact h.newcomer_of_bears hsound hown hid hb
  refine { window := h.window, created := fun e he => h.created e (hmem he),
           owners := fun e he => h.owners e (hmem he), awaiting := ?awaiting, unborn := ?unborn,
           released := ?released }
  case awaiting =>
    intro e he hawaits nc n hborn hpopup
    rcases h.awaiting e (hmem he) hawaits nc n hborn hpopup with hp | ⟨e', he', hnode⟩
    · exact .inl (hsound.parent?_attach hfit.mem hp)
    · by_cases heq : e'.node = e₀.node
      · -- The popup is what is placed, so it is placed into its owner.
        obtain rfl : n = e₀.node := hnode.symm.trans heq
        have hid := hsound.mem_newIds_of_waiting (hmem he)
        obtain ⟨nc', hborn', hncid⟩ := howner hborn hpopup (newIds_subset hnews hid)
        obtain ⟨tag, hself⟩ := hsound.waiting e (hmem he)
        have hnode' : parent = e.node :=
          node_eq_of_id? (nodup_newIds_of_isPrefix hnews hown.nodup) hborn' hncid hself rfl
        exact .inl (hplaced.trans (congrArg some hnode'))
      · exact .inr ⟨e', mem_place_of_ne hwaiting he' heq, hnode⟩
  case unborn =>
    intro id hid hnot nc n hborn hpopup
    obtain ⟨e', he', hnode⟩ := h.unborn id hid hnot nc n hborn hpopup
    refine ⟨e', mem_place_of_ne hwaiting he' fun heq => ?_, hnode⟩
    -- A popup of an element that is yet to come cannot be placed.
    obtain rfl : n = e₀.node := hnode.symm.trans heq
    obtain ⟨nc', hborn', hncid⟩ := howner hborn hpopup hid
    exact hnot (mem_newIds_of_mem_born hborn' hncid)
  case released =>
    intro e he hawaits nc hborn howns
    obtain ⟨popup, n, hfind, hpopup, hp⟩ := h.released e (hmem he) hawaits nc hborn howns
    exact ⟨popup, n, hfind, hpopup, hsound.parent?_attach hfit.mem hp⟩

/-- When a popup comes while its owner waits for one, the first one is in the owner already, unless
it is this one. -/
theorem first_entered (hsound : Sound start s) (hown : OwnIds start.builder start.tree lines)
    (hnews : s.news <+: newcomers lines) (h : Popups start lines s) {owner popup : Held}
    (hentry : Entry start s owner popup) :
    ∃ first n, s.news.find? (·.isPopupOf owner.id) = some first ∧ (first, n) ∈ s.born start ∧
      (n = popup.node ∨ s.tree.parent? n = some owner.node) := by
  obtain ⟨nc₀, hborn₀, hid₀, hpopup₀⟩ := hentry.tag
  cases hfind : s.news.find? (·.isPopupOf owner.id) with
  | none =>
    -- The popup that has come is a newcomer.
    have hnot := List.find?_eq_none.mp hfind nc₀ (mem_of_mem_born hborn₀)
    exact absurd hpopup₀ hnot
  | some first =>
    have hfirst : first.isPopupOf owner.id := by simpa using List.find?_some hfind
    obtain ⟨n, hborn⟩ := exists_of_mem start.tree.slots.size
      (List.mem_of_find?_eq_some hfind)
    refine ⟨first, n, rfl, hborn, ?_⟩
    rcases h.awaiting owner hentry.mem_owner hentry.awaits first n hborn hfirst with
      hp | ⟨e', he', rfl⟩
    · exact .inr hp
    · -- If the first one still waited, its parent would not be there; but the owner is.
      have hword := hsound.parent_of_isPopupOf he' hborn hfirst
      rcases hentry.clear e' he' (h.awaits_of_isPopupOf he' hborn hfirst) with
        rfl | hself | hnone
      · exact .inl rfl
      · -- The owner would have the id of its popup.
        rw [hself] at hword
        obtain ⟨tag, howner⟩ := hsound.waiting owner hentry.mem_owner
        have hnode := node_eq_of_id? (nodup_newIds_of_isPrefix hnews hown.nodup) howner rfl hborn₀
          (hid₀.trans hword)
        have howns := h.owners owner hentry.mem_owner hentry.awaits nc₀ (hnode ▸ hborn₀)
        rw [Newcomer.ownsPopup_of_isPopupOf hpopup₀] at howns
        cases howns
      · rw [hword] at hnone
        change s.site.resolve? owner.id = none at hnone
        rw [h.resolve?_waiting hsound hnews hentry.mem_owner] at hnone
        cases hnone

/-- **When a popup is put into its owner, the first one is in it.** -/
theorem enter (hsound : Sound start s) (hown : OwnIds start.builder start.tree lines)
    (hnews : s.news <+: newcomers lines) (h : Popups start lines s) {before after : List Held}
    {owner popup : Held} (hwaiting : s.waiting = before ++ owner :: after ++ [popup])
    (hentry : Entry start s owner popup) :
    Popups start lines ⟨s.site.attach owner.node popup.node,
      before ++ after ++ [{ owner with awaits := .parent }], s.news⟩ := by
  have hnodup := nodup_newIds_of_isPrefix hnews hown.nodup
  have hmem : ∀ {e : Held}, e ∈ before ++ after → e ∈ s.waiting := by
    intro e he
    rw [hwaiting]
    exact List.mem_append_left _ (mem_of_mem_place rfl he)
  have hplaced : (s.site.attach owner.node popup.node).tree.parent? popup.node =
      some owner.node := by
    rw [Site.tree_attach,
      Tree.parent?_attachLast _ _ _ (hsound.loose_of_waiting hentry.mem_popup).lt, if_pos rfl]
  obtain ⟨nc₀, hborn₀, hid₀, hpopup₀⟩ := hentry.tag
  obtain ⟨tag, howner⟩ := hsound.waiting owner hentry.mem_owner
  refine { window := h.window, created := ?created, owners := ?owners, awaiting := ?awaiting,
           unborn := ?unborn, released := ?released }
  case created =>
    intro e he
    rcases List.mem_append.mp he with he | he
    · exact h.created e (hmem he)
    · obtain rfl := List.mem_singleton.mp he
      exact h.created owner hentry.mem_owner
  case owners =>
    intro e he hawaits
    rcases List.mem_append.mp he with he | he
    · exact h.owners e (hmem he) hawaits
    · obtain rfl := List.mem_singleton.mp he
      cases hawaits
  case awaiting =>
    intro e he hawaits nc n hborn hpopup
    rcases List.mem_append.mp he with he | he
    · rcases h.awaiting e (hmem he) hawaits nc n hborn hpopup with hp | ⟨e', he', hnode⟩
      · exact .inl (hsound.parent?_attach hentry.mem_popup hp)
      · by_cases heq : e'.node = popup.node
        · -- Both are owners of the popup, so they are the same.
          obtain rfl : n = popup.node := hnode.symm.trans heq
          obtain rfl := eq_of_mem_born hborn hborn₀
          have hids := Newcomer.eq_of_isPopupOf hpopup hpopup₀
          obtain ⟨tag', hself⟩ := hsound.waiting e (hmem he)
          have hsame : e.node = owner.node :=
            node_eq_of_id? hnodup hself (congrArg some hids) howner rfl
          exact .inl (hplaced.trans (congrArg some hsame.symm))
        · obtain ⟨e₁, he₁, hsame⟩ := exists_enter_of_ne hwaiting he' heq
          exact .inr ⟨e₁, he₁, hsame.trans hnode⟩
    · obtain rfl := List.mem_singleton.mp he
      cases hawaits
  case unborn =>
    intro id hid hnot nc n hborn hpopup
    obtain ⟨e', he', hnode⟩ := h.unborn id hid hnot nc n hborn hpopup
    have hne : e'.node ≠ popup.node := by
      intro heq
      obtain rfl : n = popup.node := hnode.symm.trans heq
      obtain rfl := eq_of_mem_born hborn hborn₀
      rw [Newcomer.eq_of_isPopupOf hpopup hpopup₀] at hnot
      exact hnot (hsound.mem_newIds_of_waiting hentry.mem_owner)
    obtain ⟨e₁, he₁, hsame⟩ := exists_enter_of_ne hwaiting he' hne
    exact ⟨e₁, he₁, hsame.trans hnode⟩
  case released =>
    intro e he hawaits nc hborn howns
    rcases List.mem_append.mp he with he | he
    · obtain ⟨first, n, hfind, hfirst, hp⟩ := h.released e (hmem he) hawaits nc hborn howns
      exact ⟨first, n, hfind, hfirst, hsound.parent?_attach hentry.mem_popup hp⟩
    · obtain rfl := List.mem_singleton.mp he
      obtain ⟨first, n, hfind, hfirst, hp⟩ := h.first_entered hsound hown hnews hentry
      refine ⟨first, n, hfind, hfirst, ?_⟩
      rcases hp with rfl | hp
      · exact hplaced
      · exact hsound.parent?_attach hentry.mem_popup hp

/-- A text is no popup. -/
theorem text (hsound : Sound start s) (h : Popups start lines s) (content : String) :
    Popups start lines ⟨(s.site.write content).attach parent s.tree.slots.size, s.waiting,
      s.news ++ [.text id content]⟩ := by
  have hkeep : ∀ {n m : Handle}, s.tree.parent? n = some m →
      ((s.site.write content).attach parent s.tree.slots.size).tree.parent? n = some m := by
    intro n m hp
    rw [Site.tree_attach, Tree.parent?_attachLast _ _ _ (hsound.loose_write content).lt,
      if_neg (Nat.ne_of_lt (Tree.lt_of_parent? hp)), Site.tree_write, Tree.parent?_push]
    exact hp
  have hborn : ∀ {nc : Newcomer} {n : Handle}, (nc, n) ∈
      RemoteUi.born start.tree.slots.size (s.news ++ [.text id content]) →
      nc ≠ .text id content → (nc, n) ∈ s.born start := by
    intro nc n hmem hne
    exact (mem_born_append_singleton.mp hmem).resolve_right fun heq => hne heq.1
  refine { window := h.window, created := h.created, owners := ?owners, awaiting := ?awaiting,
           unborn := ?unborn, released := ?released }
  case owners =>
    intro e he hawaits nc hmem
    have hlt : e.node < start.tree.slots.size + s.news.length :=
      hsound.size ▸ (hsound.loose_of_waiting he).lt
    rcases mem_born_append_singleton.mp hmem with hold | ⟨-, heq⟩
    · exact h.owners e he hawaits nc hold
    · exact absurd heq (Nat.ne_of_lt hlt)
  case awaiting =>
    intro e he hawaits nc n hmem hpopup
    have hold := hborn hmem (by rintro rfl; cases hpopup)
    exact (h.awaiting e he hawaits nc n hold hpopup).imp_left hkeep
  case unborn =>
    intro id' hid hnot nc n hmem hpopup
    have hold := hborn hmem (by rintro rfl; cases hpopup)
    exact h.unborn id' hid (fun hin => hnot (newIds_subset (List.prefix_append ..) hin)) nc n hold
      hpopup
  case released =>
    intro e he hawaits nc hmem howns
    have hold := hborn hmem (by rintro rfl; cases howns)
    obtain ⟨popup, n, hfind, hpopup, hp⟩ := h.released e he hawaits nc hold howns
    exact ⟨popup, n, find?_of_isPrefix (List.prefix_append ..) hfind,
      mem_born_append_singleton.mpr (.inl hpopup), hkeep hp⟩

/-- What is removed is attached, and nothing below an element that waits is. -/
theorem cut (hsound : Sound start s) (hown : OwnIds start.builder start.tree lines)
    (hnews : s.news <+: newcomers lines) (h : Popups start lines s)
    (hlookup : s.tree.lookup? id = some node) (parent : Handle) :
    Popups start lines { s with site := s.site.cut id parent node } := by
  have hanchored := hsound.descends.anchored
  obtain ⟨hget, hatt⟩ := Tree.lookup?_eq_some_iff.mp hlookup
  refine h.of_waiting_eq h.window (fun e he => ?_) fun e he n hp => ?_
  · have hne : id ≠ e.id := by
      intro heq
      rw [heq] at hget hlookup
      rcases Nat.lt_or_ge node start.tree.slots.size with hold | hnew
      · -- An old node with a new id was not found before, and is not found now.
        have hl := hsound.descends.lookup? hsound.standing.anchored hold hlookup
        rw [hown.lookup?_eq_none hsound.standing.anchored
          (newIds_subset hnews (hsound.mem_newIds_of_waiting he))] at hl
        cases hl
      · -- A newcomer that is remembered under the id is the element that waits.
        rcases hsound.current e.id node hnew hget with hcreated | ⟨htop, -⟩
        · rw [h.created e he] at hcreated
          exact hsound.ne_of_isAttached he hatt (Option.some.inj hcreated)
        · have hroot := hanchored.eq_root_of_isAttached htop hatt
          exact absurd hsound.root_lt (Nat.not_lt.mpr (hroot ▸ hnew))
    rw [Site.created_cut, Dict.get?_erase, if_neg hne]
    exact h.created e he
  · -- What is below an element that waits is not attached, so it is not what is removed.
    have hne : n ≠ node := by
      rintro rfl
      exact (hsound.loose_of_waiting he).not_isAttached hanchored
        ((hanchored.isAttached_iff_of_parent? hp).mp hatt)
    rw [Site.tree_cut, Tree.parent?_detach, if_neg hne]
    exact hp

/-- **Each step keeps popups where their owners can have them.** -/
theorem step (hsound : Sound start s) (hown : OwnIds start.builder start.tree lines)
    (hnews : s.news <+: newcomers lines) (h : Popups start lines s)
    (hstep : Step start lines s s') : Popups start lines s' := by
  cases hstep with
  | quiet host call hshape hcall hjournal =>
    exact h.of_waiting_eq h.window h.created fun e he n hp => (hshape.parent? n).trans hp
  | jot builder hwindow hcreated =>
    refine h.of_waiting_eq (fun id hid => ?_) (fun e he => ?_) fun e he n hp => hp
    · rw [hwindow]
      exact h.window id hid
    · rw [hcreated]
      exact h.created e he
  | name id hwindow hline =>
    refine h.of_waiting_eq (fun id' hid heq => ?_) h.created fun e he n hp => hp
    obtain ⟨line, hmem, hcommand⟩ := hline
    rw [Option.some.inj heq] at hcommand
    exact hown.names id' hid line hmem hcommand
  | bring line id tag word hnews => exact h.bring hsound hown line id tag word hnews
  | place before after e p hwaiting hfit hfirst hopen =>
    exact h.place hsound hown hnews hwaiting hfit
  | enter before after owner popup hwaiting hentry hopen =>
    exact h.enter hsound hown hnews hwaiting hentry
  | text id content p hnews hclear hresolve hopen => exact h.text hsound content
  | remove id p node hline hlookup hparent => exact h.cut hsound hown hnews hlookup p

end Popups

theorem Reached.popups (hstart : Standing start.builder start.tree)
    (hown : OwnIds start.builder start.tree lines) (h : Reached start lines s) :
    Popups start lines s := by
  induction h with
  | start => exact .init hown
  | step hr hstep ih => exact ih.step (hr.sound hstart) hown hr.isPrefix hstep

end RemoteUi
