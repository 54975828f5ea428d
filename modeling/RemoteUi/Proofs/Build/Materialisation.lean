import RemoteUi.Proofs.Build.Passes

/-!
# Materialisation

A pass without removals loses and misplaces nothing.  On whichever way a new element gets to its
place, at once, with its popup, with its parent or at the end of the pass, it gets there once, and
everything that was there before stays.

* §1 replies whose new ids are fresh, and what ids denote in them;
* §2 the invariant: a newcomer waits, or it is below a node that bears its parent's id;
* §3 what each step keeps of it;
* §4 attachment at the end of a pass;
* §5 the theorem.
-/

namespace RemoteUi

open RemoteUi.Wire

/-! ## §1 Fresh ids -/

/-- The ids of the new elements differ from one another, from the window's id and from the ids of
the attached elements. -/
structure FreshIds (before : Tree) (window : Option NodeId) (lines : List Line) : Prop where
  nodup : (newIds (newcomers lines)).Nodup
  window : ∀ id ∈ newIds (newcomers lines), window ≠ some id
  attached : ∀ id ∈ newIds (newcomers lines), ∀ node,
    before.isAttached node → before.id? node ≠ some id

variable {start : Site} {lines : List Line} {s s' : Stage} {id : NodeId} {node parent : Handle}

/-- Under fresh ids no new id is found before the pass. -/
theorem FreshIds.lookup?_eq_none {before : Tree} {window : Option NodeId}
    (h : FreshIds before window lines) (ha : before.Anchored)
    (hid : id ∈ newIds (newcomers lines)) : before.lookup? id = none := by
  cases hl : before.lookup? id with
  | none => rfl
  | some node =>
    obtain ⟨hnode, hatt⟩ := ha.of_lookup? hl
    exact absurd hnode (h.attached id hid node hatt)

/-- In the new tree, where nothing but the root is attached, no element has an id. -/
theorem FreshIds.of_new {window : Option NodeId} (hnodup : (newIds (newcomers lines)).Nodup)
    (hwindow : ∀ id ∈ newIds (newcomers lines), window ≠ some id) :
    FreshIds Tree.new window lines where
  nodup := hnodup
  window := hwindow
  attached id _ node hatt := by
    rw [Tree.anchored_new.eq_root_of_bare rfl hatt, Tree.anchored_new.root_id]
    simp

/-- **At the end of a pass an id denotes the node that bears it.** -/
theorem denotation_of_bears (hsound : Sound start s) (hnews : s.news = newcomers lines)
    (hfresh : FreshIds start.tree s.site.builder.window lines) (hb : Bears start s id node) :
    denotation start.tree s.site.builder.window (newcomers lines) id = some node := by
  unfold denotation
  cases hb with
  | window hw => rw [if_pos hw]
  | newcomer hborn hid =>
    -- A new id is not the window's, and one newcomer has it.
    rw [Stage.born, hnews] at hborn
    rw [if_neg (hfresh.window id (mem_newIds_of_mem_born hborn hid)),
      newcomerWithId?_of_mem_born hfresh.nodup hborn hid]
    rfl
  | before hw hl =>
    have hwindow : s.site.builder.window ≠ some id := by
      intro heq
      cases hstart : start.builder.window with
      | some w =>
        -- The root had a name already, and kept it.
        rw [hsound.window w hstart] at heq
        exact hw (hstart.trans heq)
      | none =>
        -- Without a name of the root nothing was attached.
        rw [hsound.standing.anchored.lookup?_of_bare (hsound.standing.bare hstart)] at hl
        cases hl
    have hnew : id ∉ newIds (newcomers lines) := by
      intro hmem
      rw [hfresh.lookup?_eq_none hsound.standing.anchored hmem] at hl
      cases hl
    rw [if_neg hwindow, newcomerWithId?_eq_none hnew]
    exact hl

/-! ## §2 The invariant -/

/-- What holds at every stage of a pass without removals. -/
structure Intact (start : Site) (s : Stage) : Prop where
  /-- The old nodes are where they were. -/
  parent? : ∀ n < start.tree.slots.size, s.tree.parent? n = start.tree.parent? n
  /-- The old children come first, in their order. -/
  children : ∀ n, start.tree.children n <+: s.tree.children n
  /-- A newcomer waits, or it is below a node that bears its parent's id. -/
  placed : ∀ nc n, (nc, n) ∈ s.born start → (∃ e ∈ s.waiting, e.node = n) ∨
    ∃ p, s.tree.parent? n = some p ∧ Bears start s nc.below p
  /-- The tree knows the newcomers by their ids. -/
  ids : ∀ id nc n, (nc, n) ∈ s.born start → nc.id? = some id → s.tree.ids.get? id = some n

namespace Intact

theorem init (start : Site) : Intact start ⟨Build.siteAfter Build.reset start, [], []⟩ where
  parent? _ _ := rfl
  children _ := List.prefix_rfl
  placed nc n hborn := by cases hborn
  ids id nc n hborn := by cases hborn

/-! ## §3 What the steps keep -/

theorem quiet (h : Intact start s) {host : Host} (hshape : s.tree.SameShape host.tree) :
    Intact start { s with site := { s.site with host } } where
  parent? n hn := (hshape.parent? n).trans (h.parent? n hn)
  children n := by
    show start.tree.children n <+: host.tree.children n
    rw [hshape.children]
    exact h.children n
  placed nc n hborn := by
    refine (h.placed nc n hborn).imp_right fun ⟨p, hp, hb⟩ => ⟨p, ?_, ?_⟩
    · exact (hshape.parent? n).trans hp
    · exact hb.mono (fun hw => hw) List.prefix_rfl
  ids id nc n hborn hid := by
    show host.tree.ids.get? id = some n
    rw [hshape.ids]
    exact h.ids id nc n hborn hid

theorem jot (h : Intact start s) {builder : Builder}
    (hwindow : ∀ id, s.site.builder.window = some id → builder.window = some id) :
    Intact start { s with site := { s.site with builder } } where
  parent? := h.parent?
  children := h.children
  placed nc n hborn := (h.placed nc n hborn).imp_right fun ⟨p, hp, hb⟩ =>
    ⟨p, hp, hb.mono (hwindow _) List.prefix_rfl⟩
  ids := h.ids

theorem bring (hsound : Sound start s) (h : Intact start s) (line : Line) (id : NodeId)
    (tag : String) (word : Option NodeId)
    (hnodup : (newIds (s.news ++ [.element id tag word])).Nodup) :
    Intact start ⟨s.site.bring id (Vocabulary.resolve tag),
      s.waiting ++ [Held.ofNew line id tag word s.tree.slots.size],
      s.news ++ [.element id tag word]⟩ where
  parent? n hn := (Tree.parent?_withElement ..).trans (h.parent? n hn)
  children n := by
    rw [Stage.tree, Site.tree_bring, Tree.children_withElement]
    exact h.children n
  placed nc n hborn := by
    rcases mem_born_append_singleton.mp hborn with hold | ⟨rfl, rfl⟩
    · rcases h.placed nc n hold with ⟨e, he, hnode⟩ | ⟨p, hp, hb⟩
      · exact .inl ⟨e, List.mem_append_left _ he, hnode⟩
      · exact .inr ⟨p, (Tree.parent?_withElement ..).trans hp,
          hb.mono (fun hw => hw) (List.prefix_append ..)⟩
    · exact .inl ⟨_, List.mem_append_right _ List.mem_cons_self, hsound.size⟩
  ids id' nc n hborn hid := by
    rw [Stage.tree, Site.tree_bring, Tree.ids_withElement, Dict.get?_insert]
    have hnew : (Newcomer.element id tag word, s.tree.slots.size) ∈
        RemoteUi.born start.tree.slots.size (s.news ++ [.element id tag word]) :=
      mem_born_append_singleton.mpr (.inr ⟨rfl, hsound.size⟩)
    by_cases heq : id = id'
    · -- The id of the new element is that of no other newcomer.
      subst heq
      rw [if_pos rfl, node_eq_of_id? hnodup hborn hid hnew rfl]
    · rw [if_neg heq]
      rcases mem_born_append_singleton.mp hborn with hold | ⟨rfl, -⟩
      · exact h.ids id' nc n hold hid
      · exact absurd (Option.some.inj hid) heq

/-- **A newcomer that waits is put below a node that bears its parent's id.** -/
theorem attach (hsound : Sound start s) (h : Intact start s) {e : Held} (he : e ∈ s.waiting)
    (hbears : Bears start s (e.parent.getD "") parent) (hopen : s.tree.Open parent e.node)
    {waiting : List Held}
    (hkeep : ∀ e' ∈ s.waiting, e'.node ≠ e.node → ∃ e₁ ∈ waiting, e₁.node = e'.node) :
    Intact start ⟨s.site.attach parent e.node, waiting, s.news⟩ where
  parent? n hn := by
    rw [Stage.tree, Site.tree_attach, Tree.parent?_attachLast _ _ _ (hsound.loose_of_waiting he).lt,
      if_neg (Nat.ne_of_lt (Nat.lt_of_lt_of_le hn (hsound.le_of_waiting he)))]
    exact h.parent? n hn
  children n := by
    rw [Stage.tree, Site.tree_attach, Tree.children_attachLast _ _ _ hopen.lt]
    split
    · exact (h.children n).trans (List.prefix_append ..)
    · exact h.children n
  placed nc n hborn := by
    rw [Stage.tree, Site.tree_attach, Tree.parent?_attachLast _ _ _ (hsound.loose_of_waiting he).lt]
    by_cases hn : n = e.node
    · -- The element itself has come to the place that its parent word names.
      subst hn
      obtain ⟨tag, hborn'⟩ := hsound.waiting e he
      obtain rfl := eq_of_mem_born hborn hborn'
      exact .inr ⟨parent, if_pos rfl, hbears.mono (fun hw => hw) List.prefix_rfl⟩
    · rw [if_neg hn]
      rcases h.placed nc n hborn with ⟨e', he', hnode⟩ | ⟨p, hp, hb⟩
      · obtain ⟨e₁, he₁, hsame⟩ := hkeep e' he' (hnode ▸ hn)
        exact .inl ⟨e₁, he₁, hsame.trans hnode⟩
      · exact .inr ⟨p, hp, hb.mono (fun hw => hw) List.prefix_rfl⟩
  ids := h.ids

theorem text (hsound : Sound start s) (h : Intact start s) (content : String)
    (hbears : Bears start s id parent) (hopen : (s.tree.element? parent).isSome) :
    Intact start ⟨(s.site.write content).attach parent s.tree.slots.size, s.waiting,
      s.news ++ [.text id content]⟩ := by
  have hloose := hsound.loose_write content
  have hparent : ∀ n, ((s.site.write content).attach parent s.tree.slots.size).tree.parent? n =
      if n = s.tree.slots.size then some parent else s.tree.parent? n := by
    intro n
    rw [Site.tree_attach, Tree.parent?_attachLast _ _ _ hloose.lt, Site.tree_write,
      Tree.parent?_push]
  refine { parent? := ?parent?, children := ?children, placed := ?placed, ids := ?ids }
  case parent? =>
    intro n hn
    rw [Stage.tree, hparent, if_neg (Nat.ne_of_lt (Nat.lt_of_lt_of_le hn hsound.descends.size))]
    exact h.parent? n hn
  case children =>
    intro n
    rw [Stage.tree, Site.tree_attach,
      Tree.children_attachLast _ _ _ (hsound.open_write content hopen).lt, Site.tree_write,
      Tree.children_push]
    split
    · exact (h.children n).trans (List.prefix_append ..)
    · exact h.children n
  case placed =>
    intro nc n hborn
    rw [Stage.tree, hparent]
    rcases mem_born_append_singleton.mp hborn with hold | ⟨rfl, rfl⟩
    · have hlt : n < s.tree.slots.size := hsound.size ▸ lt_of_mem_born hold
      rw [if_neg (Nat.ne_of_lt hlt)]
      rcases h.placed nc n hold with hwaits | ⟨p, hp, hb⟩
      · exact .inl hwaits
      · exact .inr ⟨p, hp, hb.mono (fun hw => hw) (List.prefix_append ..)⟩
    · exact .inr ⟨parent, if_pos hsound.size.symm,
        hbears.mono (fun hw => hw) (List.prefix_append ..)⟩
  case ids =>
    intro id' nc n hborn hid
    rcases mem_born_append_singleton.mp hborn with hold | ⟨rfl, -⟩
    · exact h.ids id' nc n hold hid
    · cases hid

/-- **Each step but a removal keeps all nodes in their places.** -/
theorem step (hsound : Sound start s) (hremove : ∀ line ∈ lines, ∀ id, line.command ≠ .remove id)
    (hnodup : (newIds (newcomers lines)).Nodup) (h : Intact start s)
    (hstep : Step start lines s s') : Intact start s' := by
  cases hstep with
  | quiet host call hshape hcall hjournal => exact h.quiet hshape
  | jot builder hwindow hcreated => exact h.jot fun id hw => hwindow.trans hw
  | name id hwindow hline =>
    -- There was no name before that would have to stay.
    apply h.jot
    intro id' hw
    rw [hwindow] at hw
    cases hw
  | bring line id tag word hnews =>
    exact h.bring hsound line id tag word (nodup_newIds_of_isPrefix hnews hnodup)
  | place before after e p hwaiting hfit hfirst hopen =>
    exact h.attach hsound hfit.mem hfit.bears hopen fun e' he' hne =>
      ⟨e', mem_place_of_ne hwaiting he' hne, rfl⟩
  | enter before after owner popup hwaiting hentry hopen =>
    obtain ⟨tag, hborn⟩ := hsound.waiting owner hentry.mem_owner
    refine h.attach hsound hentry.mem_popup (.newcomer hborn ?_) hopen fun e' he' hne =>
      exists_enter_of_ne hwaiting he' hne
    rw [hentry.parent]
    rfl
  | text id content p hnews hclear hresolve hopen =>
    exact h.text hsound content (hsound.bears_of_resolve? hresolve) hopen
  | remove id p node hline hlookup hparent =>
    obtain ⟨line, hmem, hcommand⟩ := hline
    exact absurd hcommand (hremove line hmem id)

end Intact

theorem Reached.intact (hstart : Standing start.builder start.tree)
    (hremove : ∀ line ∈ lines, ∀ id, line.command ≠ .remove id)
    (hnodup : (newIds (newcomers lines)).Nodup) (h : Reached start lines s) : Intact start s := by
  induction h with
  | start => exact .init start
  | step hr hstep ih => exact ih.step (hr.sound hstart) hremove hnodup hstep

/-! ## §4 Attachment -/

namespace Intact

/-- The old nodes are attached as they were. -/
theorem isAttached_old (hsound : Sound start s) (h : Intact start s)
    (hn : node < start.tree.slots.size) : s.tree.isAttached node = start.tree.isAttached node := by
  rw [Bool.eq_iff_iff]
  constructor
  · exact hsound.descends.isAttached hsound.standing.anchored hn
  · exact Tree.isAttached_of_older hsound.standing.anchored hsound.descends.anchored
      (fun n hn => .inl (h.parent? n hn).symm)
      (fun n hn p hp => hsound.descends.parent_lt hsound.standing.anchored.toWellFormed hn hp) hn

/-- **When nothing waits, all newcomers are attached**: the way up from one of them goes on until
it comes to an old node. -/
theorem isAttached_born (hsound : Sound start s) (h : Intact start s) (hwaiting : s.waiting = [])
    {nc : Newcomer} (hborn : (nc, node) ∈ s.born start) : s.tree.isAttached node := by
  induction node using hsound.descends.anchored.acyclic.induction generalizing nc with
  | _ node ih =>
    rcases h.placed nc node hborn with ⟨e, he, -⟩ | ⟨p, hp, hb⟩
    · rw [hwaiting] at he
      cases he
    · apply (hsound.descends.anchored.isAttached_iff_of_parent? hp).mpr
      -- The parent is the root, or a newcomer further up, or an old node that was attached.
      cases hb with
      | window hw => exact hsound.descends.anchored.isAttached_root
      | newcomer hborn' hid => exact ih p hp hborn'
      | before hw hl =>
        obtain ⟨hid, hatt⟩ := hsound.standing.anchored.of_lookup? hl
        rw [h.isAttached_old hsound (Tree.lt_of_id? hid)]
        exact hatt

end Intact

/-! ## §5 The theorem -/

/-- The newcomers of a reply have come into a tree, each in its place, and nothing else has
changed its place. -/
structure Materialised (before : Tree) (window : Option NodeId) (lines : List Line)
    (after : Tree) : Prop where
  /-- A creation has made one element, found under its id. -/
  element : ∀ line ∈ lines, ∀ id tag parent, line.command = .create id tag parent →
    ∃ node, before.slots.size ≤ node ∧ after.kind? node = some (some id, Vocabulary.resolve tag) ∧
      after.lookup? id = some node ∧ (after.parent? node).isSome ∧
      after.parent? node = denotation before window (newcomers lines) (parent.getD "") ∧
      after.isAttached node ∧ ∀ n, before.slots.size ≤ n → after.id? n = some id → n = node
  /-- Every newcomer, a text no less than an element, is below the node that its command names. -/
  placed : ∀ nc node, (nc, node) ∈ born before.slots.size (newcomers lines) →
    after.Shows node nc ∧ (after.parent? node).isSome ∧
      after.parent? node = denotation before window (newcomers lines) nc.below ∧
      after.isAttached node
  /-- There are no other new nodes. -/
  size : after.slots.size = before.slots.size + (newcomers lines).length
  /-- The old nodes are what they were and where they were. -/
  old : ∀ node < before.slots.size, after.kind? node = before.kind? node ∧
    after.text? node = before.text? node ∧ after.parent? node = before.parent? node ∧
    after.isAttached node = before.isAttached node
  /-- The old children of a node come first, in their order. -/
  children : ∀ node, before.children node <+: after.children node

/-- A stage at which nothing waits and all newcomers are there. -/
theorem Intact.materialised (hsound : Sound start s) (h : Intact start s)
    (hwaiting : s.waiting = []) (hnews : s.news = newcomers lines)
    (hfresh : FreshIds start.tree s.site.builder.window lines) :
    Materialised start.tree s.site.builder.window lines s.tree := by
  have hplaced : ∀ nc n, (nc, n) ∈ born start.tree.slots.size (newcomers lines) →
      s.tree.Shows n nc ∧ (s.tree.parent? n).isSome ∧
        s.tree.parent? n =
          denotation start.tree s.site.builder.window (newcomers lines) nc.below ∧
        s.tree.isAttached n := by
    intro nc n hborn
    have hstage : (nc, n) ∈ s.born start := by
      rw [Stage.born, hnews]
      exact hborn
    refine ⟨hsound.shows nc n hstage, ?_⟩
    rcases h.placed nc n hstage with ⟨e, he, -⟩ | ⟨p, hp, hb⟩
    · rw [hwaiting] at he
      cases he
    · rw [hp, denotation_of_bears hsound hnews hfresh hb]
      exact ⟨rfl, rfl, h.isAttached_born hsound hwaiting hstage⟩
  refine { element := ?element, placed := hplaced, size := ?size, old := ?old,
           children := h.children }
  case element =>
    intro line hline id tag word hcommand
    have hmem : Newcomer.element id tag word ∈ newcomers lines :=
      List.mem_filterMap.mpr ⟨line, hline, by simp [Line.newcomer?, hcommand]⟩
    obtain ⟨n, hborn⟩ := exists_of_mem start.tree.slots.size hmem
    have hstage : (Newcomer.element id tag word, n) ∈ s.born start := by
      rw [Stage.born, hnews]
      exact hborn
    obtain ⟨hshows, hsome, hparent, hatt⟩ := hplaced _ _ hborn
    refine ⟨n, le_of_mem_born hborn, hshows, ?_, hsome, hparent, hatt, fun m hm hid => ?_⟩
    · exact Tree.lookup?_eq_some_iff.mpr ⟨h.ids id _ n hstage rfl, hatt⟩
    · exact hsound.eq_of_id? (hnews ▸ hfresh.nodup) hm (le_of_mem_born hborn) hid
        (hsound.id?_of_born hstage rfl)
  case size =>
    rw [hsound.size, hnews]
  case old =>
    intro n hn
    exact ⟨hsound.descends.kind? n hn, hsound.descends.text? n hn, h.parent? n hn,
      h.isAttached_old hsound hn⟩

/-- **Materialisation loses and misplaces nothing.**  Of a reply without removals and with fresh ids,
run without a fault from any state that passes lead to, every creation has made one element and
every text one text, each below the node that its command names and attached with it; the old nodes
are what and where they were. -/
theorem run_materialises {builder : Builder} {host : Host} {reply : Reply}
    (hreach : Reachable builder host.tree)
    (hremove : ∀ line ∈ reply.lines, ∀ id, line.command ≠ .remove id)
    (hfresh : FreshIds host.tree (builder.run host reply).2.1.window reply.lines)
    (hok : (builder.run host reply).1 = .ok ()) :
    Materialised host.tree (builder.run host reply).2.1.window reply.lines
      (builder.run host reply).2.2.tree := by
  obtain ⟨s, hreached, hwindow, -, hend⟩ := Builder.run_stage reply hreach.standing
  obtain ⟨hwaiting, hnews, hhost⟩ := hend hok
  have hsound := hreached.sound hreach.standing
  have hintact := hreached.intact hreach.standing hremove hfresh.nodup
  rw [hwindow] at hfresh ⊢
  rw [hhost]
  exact hintact.materialised hsound hwaiting hnews hfresh

/-- A popup comes before its menu, the menu before its box, and the box before the window. -/
theorem run_materialises_menu :
    ∃ reply : Reply, reply.lines =
        [(Command.create "p" "menupopup" (some "m")).toLine,
          (Command.create "m" "menu" (some "b")).toLine,
          (Command.create "b" "box" (some "w")).toLine, (Command.window "w").toLine,
          (Command.set "b" "textNode" (some "File")).toLine] ∧
      Materialised Tree.new (Builder.new.run { tree := .new } reply).2.1.window reply.lines
        (Builder.new.run { tree := .new } reply).2.2.tree := by
  have hreach : Reachable Builder.new ({ tree := .new } : Host).tree := .new
  refine ⟨⟨"", _⟩, rfl, ?_⟩
  refine run_materialises hreach (fun line hline id => ?_) (.of_new ?_ ?_) ?_
  · simp only [List.mem_cons, List.not_mem_nil, or_false] at hline
    rcases hline with rfl | rfl | rfl | rfl | rfl <;>
      simp [Command.toLine, Line.command, windowTag]
  · decide +kernel
  · decide +kernel
  · decide +kernel

end RemoteUi
