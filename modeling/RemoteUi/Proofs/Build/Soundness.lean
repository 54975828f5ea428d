import RemoteUi.Proofs.Build.Stages

/-!
# Sound stages

What holds at every stage of a pass, whatever the commands are, whatever the host refuses and
however far the pass gets: the tree comes from the one before the pass, what the builder remembers
are newcomers, and the elements that wait have no place yet.

* §1 the invariant, and what it says about the nodes that bear an id;
* §2 what each kind of step keeps of it;
* §3 every stage of a pass is sound;
* §4 an id that denotes nothing goes on to do so until its element comes.
-/

namespace RemoteUi

open RemoteUi.Wire

/-! ## §1 Sound stages -/

/-- What holds at every stage of a pass, whatever its commands are. -/
structure Sound (start : Site) (s : Stage) : Prop where
  standing : Standing start.builder start.tree
  descends : start.tree.Descends s.tree
  /-- A name of the root stays. -/
  window : ∀ id, start.builder.window = some id → s.site.builder.window = some id
  bare : s.site.builder.window = none → s.tree.children Tree.root = []
  size : s.tree.slots.size = start.tree.slots.size + s.news.length
  shows : ∀ nc node, (nc, node) ∈ s.born start → s.tree.Shows node nc
  /-- The builder remembers newcomers only, and under their ids. -/
  created : ∀ id node, s.site.builder.created.get? id = some node →
    ∃ nc, (nc, node) ∈ s.born start ∧ nc.id? = some id
  /-- A newcomer that its id still means to the tree is remembered, or it was removed. -/
  current : ∀ id node, start.tree.slots.size ≤ node → s.tree.ids.get? id = some node →
    s.site.builder.created.get? id = some node ∨
      s.tree.parent? node = none ∧ ∀ e ∈ s.waiting, e.node ≠ node
  /-- Newcomers wait. -/
  waiting : ∀ e ∈ s.waiting, ∃ tag, (.element e.id tag e.parent, e.node) ∈ s.born start
  /-- They have no place yet. -/
  loose : ∀ e ∈ s.waiting, s.tree.parent? e.node = none
  nodup : (s.waiting.map (·.node)).Nodup

namespace Sound

variable {start : Site} {lines : List Line} {s s' : Stage} {id : NodeId} {node parent : Handle}

theorem root_lt (h : Sound start s) : Tree.root < start.tree.slots.size :=
  h.standing.anchored.root_lt

theorem le_of_waiting (h : Sound start s) {e : Held} (he : e ∈ s.waiting) :
    start.tree.slots.size ≤ e.node := by
  obtain ⟨tag, hborn⟩ := h.waiting e he
  exact le_of_mem_born hborn

theorem loose_of_waiting (h : Sound start s) {e : Held} (he : e ∈ s.waiting) :
    s.tree.Loose e.node where
  lt := by
    obtain ⟨tag, hborn⟩ := h.waiting e he
    rw [h.size]
    exact lt_of_mem_born hborn
  ne_root heq := by
    have hle := h.le_of_waiting he
    rw [heq] at hle
    exact absurd h.root_lt (Nat.not_lt.mpr hle)
  parent? := h.loose e he

/-- A newcomer has the id that the tree knows it by. -/
theorem id?_of_born (h : Sound start s) {nc : Newcomer} (hborn : (nc, node) ∈ s.born start)
    (hid : nc.id? = some id) : s.tree.id? node = some id := by
  cases nc with
  | element id' tag parent =>
    cases hid
    have hshows : s.tree.kind? node = some (some id, Vocabulary.resolve tag) :=
      h.shows _ _ hborn
    rw [Tree.id?_eq, hshows]
    rfl
  | text below content => cases hid

/-- A node with an id that is not old is a newcomer. -/
theorem born_of_id? (h : Sound start s) (hle : start.tree.slots.size ≤ node)
    (hid : s.tree.id? node = some id) : ∃ nc, (nc, node) ∈ s.born start ∧ nc.id? = some id := by
  have hlt : node < start.tree.slots.size + s.news.length := h.size ▸ Tree.lt_of_id? hid
  obtain ⟨nc, hborn⟩ := exists_mem_born hle hlt
  refine ⟨nc, hborn, ?_⟩
  have hshows := h.shows nc node hborn
  -- The tree shows what the newcomer is, so its id is the newcomer's.
  cases nc with
  | element id' tag parent =>
    simp only [Tree.Shows] at hshows
    rw [Tree.id?_eq, hshows] at hid
    exact hid
  | text below content =>
    -- A text has no id.
    obtain ⟨e, he, -⟩ := Option.bind_eq_some_iff.mp hid
    simp only [Tree.Shows, Tree.text?_eq] at hshows
    rw [Tree.element?_eq] at he
    obtain ⟨slot, hslot, hcontent⟩ := Option.bind_eq_some_iff.mp he
    rw [hslot] at hshows
    cases hc : slot.content <;> simp [hc, Content.element?, Content.text?] at hcontent hshows

/-- Of new nodes with different ids an id names one. -/
theorem eq_of_id? (h : Sound start s) (hnodup : (newIds s.news).Nodup) {other : Handle}
    (hnode : start.tree.slots.size ≤ node) (hother : start.tree.slots.size ≤ other)
    (hid : s.tree.id? node = some id) (hid' : s.tree.id? other = some id) : node = other := by
  obtain ⟨nc, hborn, hnc⟩ := h.born_of_id? hnode hid
  obtain ⟨nc', hborn', hnc'⟩ := h.born_of_id? hother hid'
  exact node_eq_of_id? hnodup hborn hnc hborn' hnc'

/-- **What an id is resolved to bears it.** -/
theorem bears_of_resolve? (h : Sound start s) (hr : s.site.resolve? id = some node) :
    Bears start s id node := by
  unfold Site.resolve? at hr
  split at hr
  · next hwindow =>
    cases hr
    exact .window hwindow
  · next hwindow =>
    rcases Option.or_eq_some_iff.mp hr with hcreated | ⟨-, hlookup⟩
    · obtain ⟨nc, hborn, hid⟩ := h.created id node hcreated
      exact .newcomer hborn hid
    · have hid := (h.descends.anchored.of_lookup? hlookup).1
      rcases Nat.lt_or_ge node start.tree.slots.size with hold | hnew
      · exact .before (fun hstart => hwindow (h.window id hstart))
          (h.descends.lookup? h.standing.anchored hold hlookup)
      · obtain ⟨nc, hborn, hid⟩ := h.born_of_id? hnew hid
        exact .newcomer hborn hid

theorem bears_of_resolveParent? (h : Sound start s) {word : Option NodeId}
    (hr : s.site.resolveParent? word = some node) : Bears start s (word.getD "") node := by
  obtain ⟨id, rfl, hr⟩ := Option.bind_eq_some_iff.mp hr
  exact h.bears_of_resolve? hr

/-- The root bears no id but the window's. -/
theorem window_of_bears_root (h : Sound start s) (hb : Bears start s id Tree.root) :
    s.site.builder.window = some id := by
  cases hb with
  | window hw => exact hw
  | newcomer hborn hid => exact absurd h.root_lt (Nat.not_lt.mpr (le_of_mem_born hborn))
  | before hw hl =>
    exact absurd rfl (h.standing.anchored.ne_root_of_id? (h.standing.anchored.of_lookup? hl).1)

/-- A node other than the root has the id that it bears. -/
theorem id?_of_bears (h : Sound start s) (hb : Bears start s id node) (hne : node ≠ Tree.root) :
    s.tree.id? node = some id := by
  cases hb with
  | window hw => exact absurd rfl hne
  | newcomer hborn hid => exact h.id?_of_born hborn hid
  | before hw hl =>
    have hid := (h.standing.anchored.of_lookup? hl).1
    rw [h.descends.id?_eq (Tree.lt_of_id? hid)]
    exact hid

/-- **A node bears one id.** -/
theorem eq_of_bears (h : Sound start s) {id' : NodeId} (hb : Bears start s id node)
    (hb' : Bears start s id' node) : id = id' := by
  by_cases hne : node = Tree.root
  · subst hne
    exact Option.some.inj ((h.window_of_bears_root hb).symm.trans (h.window_of_bears_root hb'))
  · exact Option.some.inj ((h.id?_of_bears hb hne).symm.trans (h.id?_of_bears hb' hne))

/-! ## §2 What the steps keep -/

/-! ### The start, and steps that move no node -/

theorem init (h : Standing start.builder start.tree) :
    Sound start ⟨Build.siteAfter Build.reset start, [], []⟩ where
  standing := h
  descends := .refl h.anchored
  window _ hw := hw
  bare := h.bare
  size := rfl
  shows nc node hmem := by cases hmem
  created id node hget := by cases hget
  current id node hle hget :=
    absurd (Tree.lt_of_id? (h.anchored.ids id node hget)) (Nat.not_lt.mpr hle)
  waiting e he := by cases he
  loose e he := by cases he
  nodup := .nil

theorem quiet (h : Sound start s) {host : Host} (hshape : s.tree.SameShape host.tree) :
    Sound start { s with site := { s.site with host } } where
  standing := h.standing
  descends := h.descends.trans (hshape.descends h.descends.anchored)
  window := h.window
  bare hw := (hshape.children _).trans (h.bare hw)
  size := hshape.size.trans h.size
  shows nc node hborn := (h.shows nc node hborn).congr (hshape.kind? node) (hshape.text? node)
  created := h.created
  current id node hle hget := by
    have hold : s.tree.ids.get? id = some node := hshape.ids ▸ hget
    exact (h.current id node hle hold).imp (fun hcur => hcur) fun hgone =>
      ⟨(hshape.parent? node).trans hgone.1, hgone.2⟩
  waiting := h.waiting
  loose e he := (hshape.parent? e.node).trans (h.loose e he)
  nodup := h.nodup

theorem jot (h : Sound start s) {builder : Builder}
    (hwindow : builder.window = s.site.builder.window)
    (hcreated : builder.created = s.site.builder.created) :
    Sound start { s with site := { s.site with builder } } where
  standing := h.standing
  descends := h.descends
  window id hw := hwindow.trans (h.window id hw)
  bare hw := h.bare (hwindow.symm.trans hw)
  size := h.size
  shows := h.shows
  created id node hget := h.created id node (by rw [← hcreated]; exact hget)
  current id node hle hget := by
    have hold := h.current id node hle hget
    rw [← hcreated] at hold
    exact hold
  waiting := h.waiting
  loose := h.loose
  nodup := h.nodup

theorem name (h : Sound start s) (hwindow : s.site.builder.window = none) (id : NodeId) :
    Sound start { s with site := { s.site with
      builder := { s.site.builder with window := some id } } } where
  standing := h.standing
  descends := h.descends
  window id' hw := by
    have hnone := h.window id' hw
    rw [hwindow] at hnone
    cases hnone
  bare hw := by cases hw
  size := h.size
  shows := h.shows
  created := h.created
  current := h.current
  waiting := h.waiting
  loose := h.loose
  nodup := h.nodup

/-! ### New elements -/

theorem bring (h : Sound start s) (line : Line) (id : NodeId) (tag : String)
    (parent : Option NodeId) :
    Sound start ⟨s.site.bring id (Vocabulary.resolve tag),
      s.waiting ++ [Held.ofNew line id tag parent s.tree.slots.size],
      s.news ++ [.element id tag parent]⟩ where
  standing := h.standing
  descends := h.descends.trans (h.descends.anchored.descends_withElement ..)
  window := h.window
  bare hw := (Tree.children_withElement ..).trans (h.bare hw)
  size := by
    have hsize := h.size
    simp only [Stage.tree, Site.tree_bring, Tree.size_withElement, List.length_append,
      List.length_singleton] at hsize ⊢
    omega
  shows nc node hborn := by
    rcases mem_born_append_singleton.mp hborn with hold | ⟨rfl, rfl⟩
    · have hlt : node < s.tree.slots.size := h.size ▸ lt_of_mem_born hold
      refine (h.shows nc node hold).congr ?_ (Tree.text?_withElement ..)
      rw [Stage.tree, Site.tree_bring, Tree.kind?_withElement]
      exact if_neg (Nat.ne_of_lt hlt)
    · rw [← h.size]
      exact (Tree.kind?_withElement ..).trans (if_pos rfl)
  created id' node hget := by
    simp only [Site.created_bring, Dict.get?_insert] at hget
    split at hget
    · -- Under its id, the new element.
      next heq =>
      cases hget
      exact ⟨_, mem_born_append_singleton.mpr (.inr ⟨rfl, h.size⟩), congrArg some heq⟩
    · obtain ⟨nc, hborn, hid⟩ := h.created id' node hget
      exact ⟨nc, mem_born_append_singleton.mpr (.inl hborn), hid⟩
  current id' node hle hget := by
    simp only [Stage.tree, Site.tree_bring, Tree.ids_withElement, Dict.get?_insert] at hget
    simp only [Site.created_bring, Dict.get?_insert]
    split at hget
    · next heq =>
      cases hget
      rw [if_pos heq]
      exact .inl rfl
    · next hne =>
      rw [if_neg hne]
      refine (h.current id' node hle hget).imp (fun hcur => hcur) fun hgone => ⟨?_, fun e he => ?_⟩
      · exact (Tree.parent?_withElement ..).trans hgone.1
      · rcases List.mem_append.mp he with he | he
        · exact hgone.2 e he
        · have hlt := Tree.lt_of_id? (h.descends.anchored.ids id' node hget)
          rw [List.mem_singleton.mp he]
          exact Nat.ne_of_gt hlt
  waiting e he := by
    rcases List.mem_append.mp he with he | he
    · obtain ⟨tag', hborn⟩ := h.waiting e he
      exact ⟨tag', mem_born_append_singleton.mpr (.inl hborn)⟩
    · rw [List.mem_singleton.mp he]
      exact ⟨tag, mem_born_append_singleton.mpr (.inr ⟨rfl, h.size⟩)⟩
  loose e he := by
    rw [Stage.tree, Site.tree_bring, Tree.parent?_withElement]
    rcases List.mem_append.mp he with he | he
    · exact h.loose e he
    · rw [List.mem_singleton.mp he]
      exact Tree.parent?_eq_none_of_le (Nat.le_refl _)
  nodup := by
    -- The handle of the new element is beyond those of all that wait.
    rw [List.map_append, List.map_singleton, ← List.concat_eq_append]
    apply h.nodup.concat
    intro hmem
    obtain ⟨e, he, heq⟩ := List.mem_map.mp hmem
    exact absurd heq (Nat.ne_of_lt (h.loose_of_waiting he).lt)

/-! ### New places -/

/-- An element that waits is put below a node.  Those that go on to wait may do so for another
reason. -/
theorem attach (h : Sound start s) {e : Held} (he : e ∈ s.waiting)
    (hroot : parent = Tree.root → s.site.builder.window ≠ none)
    (hopen : s.tree.Open parent e.node) {waiting : List Held}
    (hkeep : ∀ e' ∈ waiting, e'.node ≠ e.node ∧
      ∃ e₀ ∈ s.waiting, e'.id = e₀.id ∧ e'.node = e₀.node ∧ e'.parent = e₀.parent)
    (hnodup : (waiting.map (·.node)).Nodup) :
    Sound start ⟨s.site.attach parent e.node, waiting, s.news⟩ where
  standing := h.standing
  descends := h.descends.attachLast (h.le_of_waiting he) (h.loose_of_waiting he) hopen
  window := h.window
  bare hw := by
    -- Nothing was put below the root, for it has no name.
    rw [Stage.tree, Site.tree_attach, Tree.children_attachLast _ _ _ hopen.lt,
      if_neg fun heq => hroot heq.symm hw]
    exact h.bare hw
  size := (Tree.size_attachLast ..).trans h.size
  shows nc node hborn :=
    (h.shows nc node hborn).congr (Tree.kind?_attachLast ..) (Tree.text?_attachLast ..)
  created := h.created
  current id node hle hget := by
    refine (h.current id node hle hget).imp (fun hcur => hcur) fun hgone => ⟨?_, fun e' he' => ?_⟩
    · rw [Stage.tree, Site.tree_attach, Tree.parent?_attachLast _ _ _ (h.loose_of_waiting he).lt,
        if_neg (hgone.2 e he).symm]
      exact hgone.1
    · obtain ⟨-, e₀, he₀, -, hnode, -⟩ := hkeep e' he'
      rw [hnode]
      exact hgone.2 e₀ he₀
  waiting e' he' := by
    obtain ⟨-, e₀, he₀, hid, hnode, hparent⟩ := hkeep e' he'
    rw [hid, hnode, hparent]
    exact h.waiting e₀ he₀
  loose e' he' := by
    obtain ⟨hne, e₀, he₀, -, hnode, -⟩ := hkeep e' he'
    rw [Stage.tree, Site.tree_attach, Tree.parent?_attachLast _ _ _ (h.loose_of_waiting he).lt,
      if_neg hne, hnode]
    exact h.loose e₀ he₀
  nodup := hnodup

/-- Nothing is below a node that is yet to come. -/
theorem open_write (h : Sound start s) (content : String)
    (hopen : (s.tree.element? parent).isSome) :
    (s.site.write content).tree.Open parent s.tree.slots.size := by
  have hlt : parent < s.tree.slots.size :=
    Tree.lt_of_isSome_element? hopen
  refine { element := ?element, cycle := ?cycle }
  case element =>
    rw [Site.tree_write, Tree.element?_push, if_neg (Nat.ne_of_lt hlt)]
    exact hopen
  case cycle =>
    intro hup
    rcases hup.cases_tail with heq | ⟨m, -, hp⟩
    · exact Nat.ne_of_gt hlt heq
    · rw [Site.tree_write, Tree.parent?_push] at hp
      exact Nat.lt_irrefl _ (h.descends.anchored.toWellFormed.parent_lt hp)

theorem loose_write (h : Sound start s) (content : String) :
    (s.site.write content).tree.Loose s.tree.slots.size :=
  Site.loose_write h.descends.anchored content

/-- A new text is put below a node. -/
theorem text (h : Sound start s) (id : NodeId) (content : String)
    (hroot : parent = Tree.root → s.site.builder.window ≠ none)
    (hopen : (s.tree.element? parent).isSome) :
    Sound start ⟨(s.site.write content).attach parent s.tree.slots.size, s.waiting,
      s.news ++ [.text id content]⟩ where
  standing := h.standing
  descends := (h.descends.trans (h.descends.anchored.descends_push_text content)).attachLast
    h.descends.size (h.loose_write content) (h.open_write content hopen)
  window := h.window
  bare hw := by
    rw [Stage.tree, Site.tree_attach,
      Tree.children_attachLast _ _ _ (h.open_write content hopen).lt,
      if_neg fun heq => hroot heq.symm hw, Site.tree_write, Tree.children_push]
    exact h.bare hw
  size := by
    have hsize := h.size
    simp only [Stage.tree, Site.tree_attach, Site.tree_write, Tree.size_attachLast,
      Tree.size_push, List.length_append, List.length_singleton] at hsize ⊢
    omega
  shows nc node hborn := by
    rcases mem_born_append_singleton.mp hborn with hold | ⟨rfl, rfl⟩
    · have hlt : node < s.tree.slots.size := h.size ▸ lt_of_mem_born hold
      apply (h.shows nc node hold).congr
      · rw [Stage.tree, Site.tree_attach, Tree.kind?_attachLast, Site.tree_write, Tree.kind?_push]
        exact if_neg (Nat.ne_of_lt hlt)
      · rw [Stage.tree, Site.tree_attach, Tree.text?_attachLast, Site.tree_write, Tree.text?_push]
        exact if_neg (Nat.ne_of_lt hlt)
    · rw [← h.size]
      exact (Tree.text?_attachLast ..).trans ((Tree.text?_push ..).trans (if_pos rfl))
  created id' node hget := by
    obtain ⟨nc, hborn, hid⟩ := h.created id' node hget
    exact ⟨nc, mem_born_append_singleton.mpr (.inl hborn), hid⟩
  current id' node hle hget := by
    refine (h.current id' node hle hget).imp (fun hcur => hcur) fun hgone => ⟨?_, hgone.2⟩
    have hlt : node < s.tree.slots.size :=
      Tree.lt_of_id? (h.descends.anchored.ids id' node hget)
    rw [Stage.tree, Site.tree_attach, Tree.parent?_attachLast _ _ _ (h.loose_write content).lt,
      if_neg (Nat.ne_of_lt hlt), Site.tree_write, Tree.parent?_push]
    exact hgone.1
  waiting e he := by
    obtain ⟨tag, hborn⟩ := h.waiting e he
    exact ⟨tag, mem_born_append_singleton.mpr (.inl hborn)⟩
  loose e he := by
    rw [Stage.tree, Site.tree_attach, Tree.parent?_attachLast _ _ _ (h.loose_write content).lt,
      if_neg (Nat.ne_of_lt (h.loose_of_waiting he).lt), Site.tree_write, Tree.parent?_push]
    exact h.loose e he
  nodup := h.nodup

/-! ### Removals -/

/-- An element that waits is not attached, so it is not removed. -/
theorem ne_of_isAttached (h : Sound start s) {e : Held} (he : e ∈ s.waiting)
    (hatt : s.tree.isAttached node) : e.node ≠ node := by
  rintro rfl
  exact (h.loose_of_waiting he).not_isAttached h.descends.anchored hatt

theorem cut (h : Sound start s) (hlookup : s.tree.lookup? id = some node) (parent : Handle) :
    Sound start { s with site := s.site.cut id parent node } where
  standing := h.standing
  descends := h.descends.trans (h.descends.anchored.descends_detach node)
  window := h.window
  bare hw := by
    rw [Stage.tree, Site.tree_cut, Tree.children_detach]
    split
    · rw [show s.site.tree.children Tree.root = [] from h.bare hw]
      rfl
    · exact h.bare hw
  size := (Tree.size_detach ..).trans h.size
  shows nc node' hborn :=
    (h.shows nc node' hborn).congr (Tree.kind?_detach ..) (Tree.text?_detach ..)
  created id' node' hget := by
    simp only [Site.created_cut, Dict.get?_erase] at hget
    split at hget
    · cases hget
    · exact h.created id' node' hget
  current id' node' hle hget := by
    obtain ⟨hids, hatt⟩ := Tree.lookup?_eq_some_iff.mp hlookup
    rw [Stage.tree, Site.tree_cut, Tree.ids_detach] at hget
    rw [Stage.tree, Site.tree_cut, Site.created_cut, Dict.get?_erase, Tree.parent?_detach]
    by_cases heq : id = id'
    · -- What the id means is just what was removed.
      subst heq
      obtain rfl : node = node' := Option.some.inj (hids.symm.trans hget)
      exact .inr ⟨if_pos rfl, fun e he => h.ne_of_isAttached he hatt⟩
    · rw [if_neg heq]
      refine (h.current id' node' hle hget).imp (fun hcur => hcur) fun hgone => ⟨?_, hgone.2⟩
      split
      · rfl
      · exact hgone.1
  waiting := h.waiting
  loose e he := by
    rw [Stage.tree, Site.tree_cut, Tree.parent?_detach]
    split
    · rfl
    · exact h.loose e he
  nodup := h.nodup

/-! ## §3 Every stage is sound -/

/-- **Each step keeps a stage sound.** -/
theorem step (h : Sound start s) (hstep : Step start lines s s') : Sound start s' := by
  cases hstep with
  | quiet host call hshape hcall hjournal => exact h.quiet hshape
  | jot builder hwindow hcreated => exact h.jot hwindow hcreated
  | name id hwindow hline => exact h.name hwindow id
  | bring line id tag parent hnews => exact h.bring line id tag parent
  | place before after e parent hwaiting hfit hfirst hopen =>
    refine h.attach hfit.mem (fun hroot hw => ?_) hopen (fun e' he' => ?_)
      (h.nodup.sublist ((sublist_place hwaiting).map _))
    · rw [h.window_of_bears_root (hroot ▸ hfit.bears)] at hw
      cases hw
    · exact ⟨ne_of_mem_place h.nodup hwaiting he', e', mem_of_mem_place hwaiting he', rfl, rfl, rfl⟩
  | enter before after owner popup hwaiting hentry hopen =>
    have hnodup := h.nodup
    rw [hwaiting, List.map_append] at hnodup
    -- The owner waits on in another place of the list.
    have hperm : ((before ++ after ++ [{ owner with awaits := .parent }]).map Held.node).Perm
        ((before ++ owner :: after).map Held.node) := by
      simp only [List.map_append, List.map_cons, List.map_nil, List.append_assoc]
      exact (List.perm_append_singleton _ _).append_left _
    refine h.attach hentry.mem_popup (fun hroot hw => ?_) hopen (fun e' he' => ?_)
      (hperm.nodup_iff.mpr (List.nodup_append.mp hnodup).1)
    · -- The owner is no root.
      exact absurd hroot (h.loose_of_waiting hentry.mem_owner).ne_root
    · exact ⟨ne_of_mem_enter h.nodup hwaiting he', exists_of_mem_enter hwaiting he'⟩
  | text id content parent hnews hclear hresolve hopen =>
    refine h.text id content (fun hroot hw => ?_) hopen
    rw [h.window_of_bears_root (hroot ▸ h.bears_of_resolve? hresolve)] at hw
    cases hw
  | remove id parent node hline hlookup hparent => exact h.cut hlookup parent

end Sound

/-- **Every stage of a pass is sound.** -/
theorem Reached.sound {start : Site} {lines : List Line} {s : Stage}
    (hstart : Standing start.builder start.tree) (h : Reached start lines s) : Sound start s := by
  induction h with
  | start => exact .init hstart
  | step _ hstep ih => exact ih.step hstep

/-- The newcomers at a stage are newcomers of the lines. -/
theorem Reached.isPrefix {start : Site} {lines : List Line} {s : Stage}
    (h : Reached start lines s) : s.news <+: newcomers lines := by
  induction h with
  | start => exact List.nil_prefix
  | step _ hstep ih => cases hstep <;> assumption

/-! ## §4 Unresolved ids -/

/-- An id denotes nothing if it is not the window's, not remembered and not found. -/
theorem Site.resolve?_eq_none_iff {site : Site} {id : NodeId} : site.resolve? id = none ↔
    site.builder.window ≠ some id ∧ site.builder.created.get? id = none ∧
      site.tree.lookup? id = none := by
  unfold Site.resolve?
  split
  · next hw => simp [hw]
  · next hw =>
    rw [Option.or_eq_none_iff]
    exact ⟨fun h => ⟨hw, h⟩, fun h => h.2⟩

/-- What was not resolved is still not. -/
def Site.StaysUnresolved (site site' : Site) : Prop :=
  ∀ id, site.resolve? id = none → site'.resolve? id = none

namespace Site.StaysUnresolved

theorem refl (site : Site) : site.StaysUnresolved site := fun _ h => h

theorem trans {a b c : Site} (h : a.StaysUnresolved b) (h' : b.StaysUnresolved c) :
    a.StaysUnresolved c :=
  fun id hid => h' id (h id hid)

end Site.StaysUnresolved

namespace Sound

variable {start : Site} {s : Stage} {id : NodeId} {node parent : Handle}

/-- **A new place for one node lets no id be found that was not.** -/
theorem lookup?_eq_none (h : Sound start s) {tree : Tree} (ha : tree.Anchored)
    (hids : tree.ids = s.tree.ids) (hparent : ∀ n, n ≠ node → tree.parent? n = s.tree.parent? n)
    (hnew : start.tree.slots.size ≤ node)
    (hnode : s.tree.ids.get? id = some node → s.site.builder.created.get? id = some node)
    (hcreated : s.site.builder.created.get? id = none) (hl : s.tree.lookup? id = none) :
    tree.lookup? id = none := by
  rw [Tree.lookup?_eq_none_iff]
  intro m hget hatt
  rw [hids] at hget
  rcases Nat.lt_or_ge m start.tree.slots.size with hold | hge
  · -- The way up from an old node does not come by the new one.
    have hatt' : s.tree.isAttached m := by
      refine Tree.isAttached_of_older ha h.descends.anchored (fun n hn => ?_) (fun n hn p hp => ?_)
        hold hatt
      · exact .inl (hparent n (Nat.ne_of_lt (Nat.lt_of_lt_of_le hn hnew)))
      · exact h.descends.parent_lt h.standing.anchored.toWellFormed hn hp
    exact Tree.lookup?_eq_none_iff.mp hl m hget hatt'
  · rcases h.current id m hge hget with hsome | ⟨htop, -⟩
    · rw [hcreated] at hsome
      cases hsome
    · -- It was removed, and the node that is placed is another one.
      have hne : m ≠ node := by
        rintro rfl
        have hsome := hnode hget
        rw [hcreated] at hsome
        cases hsome
      have hroot := ha.eq_root_of_isAttached ((hparent m hne).trans htop) hatt
      exact absurd h.root_lt (Nat.not_lt.mpr (hroot ▸ hge))

theorem staysUnresolved_attach (h : Sound start s) {e : Held} (he : e ∈ s.waiting)
    (hopen : s.tree.Open parent e.node) :
    s.site.StaysUnresolved (s.site.attach parent e.node) := by
  intro id hid
  obtain ⟨hw, hcreated, hl⟩ := Site.resolve?_eq_none_iff.mp hid
  have hloose := h.loose_of_waiting he
  refine Site.resolve?_eq_none_iff.mpr ⟨hw, hcreated, ?_⟩
  refine h.lookup?_eq_none (h.descends.attachLast (h.le_of_waiting he) hloose hopen).anchored rfl
    (fun n hn => ?_) (h.le_of_waiting he) (fun hget => ?_) hcreated hl
  · rw [Site.tree_attach, Tree.parent?_attachLast _ _ _ hloose.lt, if_neg hn]
  · exact (h.current id e.node (h.le_of_waiting he) hget).resolve_right
      fun hgone => hgone.2 e he rfl

theorem staysUnresolved_text (h : Sound start s) (content : String)
    (hopen : (s.tree.element? parent).isSome) :
    s.site.StaysUnresolved ((s.site.write content).attach parent s.tree.slots.size) := by
  intro id hid
  obtain ⟨hw, hcreated, hl⟩ := Site.resolve?_eq_none_iff.mp hid
  have hanchored : ((s.site.write content).attach parent s.tree.slots.size).tree.Anchored :=
    ((h.descends.trans (h.descends.anchored.descends_push_text content)).attachLast
      h.descends.size (h.loose_write content) (h.open_write content hopen)).anchored
  refine Site.resolve?_eq_none_iff.mpr ⟨hw, hcreated, ?_⟩
  refine h.lookup?_eq_none hanchored rfl (fun n hn => ?_) h.descends.size (fun hget => ?_)
    hcreated hl
  · rw [Site.tree_attach, Tree.parent?_attachLast _ _ _ (h.loose_write content).lt, if_neg hn,
      Site.tree_write, Tree.parent?_push]
  · exact absurd (Tree.lt_of_id? (h.descends.anchored.ids id _ hget)) (Nat.lt_irrefl _)

theorem staysUnresolved_cut (h : Sound start s) (id : NodeId) (parent node : Handle) :
    s.site.StaysUnresolved (s.site.cut id parent node) := by
  intro id' hid
  obtain ⟨hw, hcreated, hl⟩ := Site.resolve?_eq_none_iff.mp hid
  refine Site.resolve?_eq_none_iff.mpr ⟨hw, ?_, ?_⟩
  · rw [Site.created_cut, Dict.get?_erase, hcreated, ite_self]
  · rw [Tree.lookup?_eq_none_iff]
    intro m hget hatt
    rw [Site.tree_cut, Tree.ids_detach] at hget
    -- What is attached after the removal was attached before it.
    have hatt' : s.tree.isAttached m :=
      (h.descends.anchored.descends_detach node).isAttached h.descends.anchored
        (Tree.lt_of_id? (h.descends.anchored.ids id' m hget)) hatt
    exact Tree.lookup?_eq_none_iff.mp hl m hget hatt'

/-- A new element lets its own id be found, and no other one. -/
theorem resolve?_bring_eq_none (h : Sound start s) {id id' : NodeId} (hne : id ≠ id')
    (kind : Vocabulary × String) (hid : s.site.resolve? id' = none) :
    (s.site.bring id kind).resolve? id' = none := by
  obtain ⟨hw, hcreated, hl⟩ := Site.resolve?_eq_none_iff.mp hid
  refine Site.resolve?_eq_none_iff.mpr ⟨hw, ?_, ?_⟩
  · rw [Site.created_bring, Dict.get?_insert, if_neg hne]
    exact hcreated
  · rw [Tree.lookup?_eq_none_iff]
    intro m hget hatt
    rw [Site.tree_bring, Tree.ids_withElement, Dict.get?_insert, if_neg hne] at hget
    have hatt' : s.tree.isAttached m :=
      (h.descends.anchored.descends_withElement kind.1 kind.2 id).isAttached h.descends.anchored
        (Tree.lt_of_id? (h.descends.anchored.ids id' m hget)) hatt
    exact Tree.lookup?_eq_none_iff.mp hl m hget hatt'

end Sound

/-- An edit that leaves all nodes in their places changes nothing of what ids denote. -/
theorem Site.resolve?_quiet {site : Site} {host : Host} (h : site.tree.SameShape host.tree)
    (id : NodeId) : ({ site with host } : Site).resolve? id = site.resolve? id := by
  unfold Site.resolve?
  rw [h.lookup?]
  rfl

end RemoteUi
