import Mathlib.Data.List.Sort
import RemoteUi.Proofs.Build.Materialisation

/-!
# Siblings stand in wire order

Where no element waits for a popup and every one names its parent, it does not show in the result
that an element came before its parent: the new children of every node stand in the order of their
commands.  Handles are given out in this order, so it is enough that the handles of the new children
ascend.

* §1 new children;
* §2 the invariant: new children ascend, and an element that waits comes after those of its parent;
* §3 what each step keeps of it;
* §4 the theorem.
-/

namespace RemoteUi

open RemoteUi.Wire

variable {start : Site} {lines : List Line} {s s' : Stage} {id : NodeId} {node parent : Handle}

/-! ## §1 New children -/

/-- The children that a node has got since the start of the pass. -/
def Stage.added (start : Site) (s : Stage) (node : Handle) : List Handle :=
  (s.tree.children node).drop (start.tree.children node).length

/-- New children are children, so they have slots. -/
theorem Sound.lt_of_added (hsound : Sound start s) (h : node ∈ s.added start parent) :
    node < s.tree.slots.size :=
  Tree.lt_of_parent? ((hsound.descends.anchored.mem_children_iff parent node).mp
    (List.mem_of_mem_drop h))

/-- A node put last below another one is the last of its new children. -/
theorem Intact.added_attachLast (h : Intact start s) {tree : Tree} (site : Site)
    (waiting : List Held) (news : List Newcomer)
    (hsite : site.tree = tree.attachLast parent node) (hparent : parent < tree.slots.size)
    (hchildren : ∀ n, tree.children n = s.tree.children n) (n : Handle) :
    (⟨site, waiting, news⟩ : Stage).added start n =
      if n = parent then s.added start n ++ [node] else s.added start n := by
  unfold Stage.added
  rw [Stage.tree, hsite, Tree.children_attachLast _ _ _ hparent, hchildren]
  split
  · rw [List.drop_append_of_le_length (h.children n).length_le]
  · rfl

/-- A node without children has got no new ones. -/
theorem Stage.added_eq_nil (h : s.tree.children node = []) : s.added start node = [] := by
  unfold Stage.added
  rw [h, List.drop_nil]

/-! ## §2 The invariant -/

/-- A reply without popup owners, in which every new element names its parent. -/
structure Plain (lines : List Line) : Prop where
  noOwners : ∀ nc ∈ newcomers lines, nc.ownsPopup = false
  parents : ∀ id tag parent, Newcomer.element id tag parent ∈ newcomers lines → parent.isSome

/-- What holds at every stage of a plain pass without removals. -/
structure Ordered (start : Site) (s : Stage) : Prop where
  sorted : ∀ p, (s.added start p).Pairwise (· < ·)
  /-- The new children of what an element waits for are older than the element. -/
  early : ∀ e ∈ s.waiting, ∀ p, Bears start s (e.parent.getD "") p →
    ∀ n ∈ s.added start p, n < e.node
  /-- Elements wait in the order in which they were created. -/
  waiting : s.waiting.Pairwise fun a b => a.node < b.node
  plain : ∀ e ∈ s.waiting, e.awaits = .parent ∧ e.parent.isSome

namespace Ordered

theorem init (start : Site) : Ordered start ⟨Build.siteAfter Build.reset start, [], []⟩ where
  sorted p := by
    have hnone : Stage.added start ⟨Build.siteAfter Build.reset start, [], []⟩ p = [] :=
      List.drop_length
    rw [hnone]
    exact .nil
  early e he := by cases he
  waiting := .nil
  plain e he := by cases he

/-! ## §3 What the steps keep -/

/-- A step that moves no node and brings no newcomer. -/
theorem of_children_eq (h : Ordered start s) {site : Site}
    (hchildren : ∀ p, site.tree.children p = s.tree.children p)
    (hbears : ∀ id p, Bears start { s with site } id p →
      Bears start s id p ∨ s.tree.children p = []) :
    Ordered start { s with site } := by
  have hadded : ∀ p, Stage.added start { s with site } p = s.added start p := by
    intro p
    unfold Stage.added
    rw [Stage.tree, hchildren]
  refine { sorted := ?sorted, early := ?early, waiting := h.waiting, plain := h.plain }
  case sorted =>
    intro p
    rw [hadded]
    exact h.sorted p
  case early =>
    intro e he p hb n hn
    rw [hadded] at hn
    rcases hbears _ _ hb with hb | hnone
    · exact h.early e he p hb n hn
    · rw [Stage.added_eq_nil hnone] at hn
      cases hn

/-- The root is bare when it gets its name. -/
theorem name (hsound : Sound start s) (h : Ordered start s)
    (hwindow : s.site.builder.window = none) (id : NodeId) :
    Ordered start { s with site := { s.site with
      builder := { s.site.builder with window := some id } } } := by
  refine h.of_children_eq (fun _ => rfl) fun id' p hb => ?_
  cases hb with
  | window hw => exact .inr (hsound.bare hwindow)
  | newcomer hborn hid => exact .inl (.newcomer hborn hid)
  | before hw hl => exact .inl (.before hw hl)

/-- A new element waits last, and has no children. -/
theorem bring (hsound : Sound start s) (h : Ordered start s) (line : Line) (id : NodeId)
    (tag : String) (word : Option NodeId)
    (hplain : Newcomer.ownsPopup (.element id tag word) = false) (hword : word.isSome) :
    Ordered start ⟨s.site.bring id (Vocabulary.resolve tag),
      s.waiting ++ [Held.ofNew line id tag word s.tree.slots.size],
      s.news ++ [.element id tag word]⟩ := by
  have hadded : ∀ p, Stage.added start ⟨s.site.bring id (Vocabulary.resolve tag),
      s.waiting ++ [Held.ofNew line id tag word s.tree.slots.size],
      s.news ++ [.element id tag word]⟩ p = s.added start p := by
    intro p
    unfold Stage.added
    rw [Stage.tree, Site.tree_bring, Tree.children_withElement]
  refine { sorted := ?sorted, early := ?early, waiting := ?waiting, plain := ?plain }
  case sorted =>
    intro p
    rw [hadded]
    exact h.sorted p
  case early =>
    intro e he p hb n hn
    rw [hadded] at hn
    rcases List.mem_append.mp he with he | he
    · cases hb with
      | window hw => exact h.early e he _ (.window hw) n hn
      | newcomer hborn hid =>
        rcases mem_born_append_singleton.mp hborn with hold | ⟨-, rfl⟩
        · exact h.early e he _ (.newcomer hold hid) n hn
        · -- The new element itself has no children yet.
          rw [Stage.added_eq_nil (Tree.children_eq_nil_of_le (Nat.le_of_eq hsound.size))] at hn
          cases hn
      | before hw hl => exact h.early e he _ (.before hw hl) n hn
    · rw [List.mem_singleton.mp he]
      exact hsound.lt_of_added hn
  case waiting =>
    refine List.pairwise_append.mpr ⟨h.waiting, List.pairwise_singleton _ _, fun e he e' he' => ?_⟩
    rw [List.mem_singleton.mp he']
    exact (hsound.loose_of_waiting he).lt
  case plain =>
    intro e he
    rcases List.mem_append.mp he with he | he
    · exact h.plain e he
    · rw [List.mem_singleton.mp he]
      refine ⟨?_, hword⟩
      simp only [Newcomer.ownsPopup] at hplain
      simp only [Held.ofNew, hplain, Bool.false_eq_true, if_false]

/-- **The first of the elements that wait for a parent becomes its last child.** -/
theorem place (hsound : Sound start s) (hintact : Intact start s) (h : Ordered start s)
    {before after : List Held} {e : Held} (hwaiting : s.waiting = before ++ e :: after)
    (hfit : Fit start lines s e parent)
    (hfirst : ∀ e' ∈ before, e'.awaits = .parent → e'.parent ≠ e.parent)
    (hopen : s.tree.Open parent e.node) :
    Ordered start ⟨s.site.attach parent e.node, before ++ after, s.news⟩ := by
  have hadded := hintact.added_attachLast (s.site.attach parent e.node) (before ++ after) s.news
    rfl hopen.lt fun _ => rfl
  have hsub : (before ++ after).Sublist s.waiting := sublist_place hwaiting
  refine { sorted := ?sorted, early := ?early, waiting := h.waiting.sublist hsub,
           plain := fun e' he' => h.plain e' (hsub.mem he') }
  case sorted =>
    intro p
    rw [hadded]
    split
    · next heq =>
      subst heq
      refine List.pairwise_append.mpr ⟨h.sorted p, List.pairwise_singleton _ _, fun n hn m hm => ?_⟩
      -- It comes after the new children that are there.
      rw [List.mem_singleton.mp hm]
      exact h.early e hfit.mem p hfit.bears n hn
    · exact h.sorted p
  case early =>
    intro e' he' p hb n hn
    have hmem := hsub.mem he'
    replace hb : Bears start s (e'.parent.getD "") p := hb.mono (fun hw => hw) List.prefix_rfl
    rw [hadded] at hn
    split at hn
    · next heq =>
      subst heq
      rcases List.mem_append.mp hn with hn | hn
      · exact h.early e' hmem p hb n hn
      · -- It waits for the same parent, so it does not stand before.
        rw [List.mem_singleton.mp hn]
        obtain ⟨w, hw⟩ := Option.isSome_iff_exists.mp (h.plain e hfit.mem).2
        obtain ⟨w', hw'⟩ := Option.isSome_iff_exists.mp (h.plain e' hmem).2
        have hsame := hsound.eq_of_bears hb hfit.bears
        rw [hw, hw', Option.getD_some, Option.getD_some] at hsame
        rcases List.mem_append.mp he' with he' | he'
        · exact absurd (by rw [hw, hw', hsame]) (hfirst e' he' (h.plain e' hmem).1)
        · -- What stands behind it was created later.
          have hpair := h.waiting
          rw [hwaiting] at hpair
          exact (List.pairwise_cons.mp (List.pairwise_append.mp hpair).2.1).1 e' he'
    · exact h.early e' hmem p hb n hn

/-- A text becomes the last child of a node for which no element waits. -/
theorem text (hsound : Sound start s) (hintact : Intact start s) (h : Ordered start s)
    (content : String) (hclear : s.Clear) (hresolve : s.site.resolve? id = some parent)
    (hopen : (s.tree.element? parent).isSome) :
    Ordered start ⟨(s.site.write content).attach parent s.tree.slots.size, s.waiting,
      s.news ++ [.text id content]⟩ := by
  have hadded := hintact.added_attachLast
    ((s.site.write content).attach parent s.tree.slots.size) s.waiting
    (s.news ++ [.text id content]) rfl (hsound.open_write content hopen).lt
    fun n => Tree.children_push ..
  refine { sorted := ?sorted, early := ?early, waiting := h.waiting, plain := h.plain }
  case sorted =>
    intro p
    rw [hadded]
    split
    · refine List.pairwise_append.mpr ⟨h.sorted p, List.pairwise_singleton _ _, fun n hn m hm => ?_⟩
      rw [List.mem_singleton.mp hm]
      exact hsound.lt_of_added hn
    · exact h.sorted p
  case early =>
    intro e he p hb n hn
    replace hb : Bears start s (e.parent.getD "") p := by
      cases hb with
      | window hw => exact .window hw
      | newcomer hborn hid =>
        rcases mem_born_append_singleton.mp hborn with hold | ⟨rfl, -⟩
        · exact .newcomer hold hid
        · cases hid
      | before hw hl => exact .before hw hl
    rw [hadded] at hn
    split at hn
    · next heq =>
      subst heq
      -- An element that waits for this node would have been attached to it before.
      obtain ⟨hawaits, hsome⟩ := h.plain e he
      obtain ⟨w, hw⟩ := Option.isSome_iff_exists.mp hsome
      have hsame := hsound.eq_of_bears hb (hsound.bears_of_resolve? hresolve)
      rw [hw, Option.getD_some] at hsame
      have hnone := hclear e he hawaits
      rw [hw, hsame] at hnone
      change s.site.resolve? id = none at hnone
      rw [hresolve] at hnone
      cases hnone
    · exact h.early e he p hb n hn

/-- **Each step of a plain pass without removals keeps siblings in order.** -/
theorem step (hsound : Sound start s) (hintact : Intact start s) (hplain : Plain lines)
    (hremove : ∀ line ∈ lines, ∀ id, line.command ≠ .remove id) (h : Ordered start s)
    (hstep : Step start lines s s') : Ordered start s' := by
  cases hstep with
  | quiet host call hshape hcall hjournal =>
    exact h.of_children_eq hshape.children fun id p hb =>
      .inl (hb.mono (fun hw => hw) List.prefix_rfl)
  | jot builder hwindow hcreated =>
    exact h.of_children_eq (fun _ => rfl) fun id p hb =>
      .inl (hb.mono (fun hw => hwindow.symm.trans hw) List.prefix_rfl)
  | name id hwindow hline => exact h.name hsound hwindow id
  | bring line id tag word hnews =>
    have hmem : Newcomer.element id tag word ∈ newcomers lines := hnews.subset (by simp)
    exact h.bring hsound line id tag word (hplain.noOwners _ hmem) (hplain.parents _ _ _ hmem)
  | place before after e p hwaiting hfit hfirst hopen =>
    exact h.place hsound hintact hwaiting hfit hfirst hopen
  | enter before after owner popup hwaiting hentry hopen =>
    -- Nothing waits for a popup.
    have hawaits := (h.plain owner hentry.mem_owner).1
    rw [hentry.awaits] at hawaits
    cases hawaits
  | text id content p hnews hclear hresolve hopen =>
    exact h.text hsound hintact content hclear hresolve hopen
  | remove id p node hline hlookup hparent =>
    obtain ⟨line, hmem, hcommand⟩ := hline
    exact absurd hcommand (hremove line hmem id)

end Ordered

theorem Reached.ordered (hstart : Standing start.builder start.tree) (hplain : Plain lines)
    (hremove : ∀ line ∈ lines, ∀ id, line.command ≠ .remove id)
    (hnodup : (newIds (newcomers lines)).Nodup) (h : Reached start lines s) :
    Ordered start s := by
  induction h with
  | start => exact .init start
  | step hr hstep ih =>
    exact ih.step (hr.sound hstart) (hr.intact hstart hremove hnodup) hplain hremove hstep

/-! ## §4 The theorem -/

/-- The newcomers that belong below a node, in the order of their commands. -/
def newcomersBelow (before : Tree) (window : Option NodeId) (lines : List Line) (node : Handle) :
    List Handle :=
  ((born before.slots.size (newcomers lines)).filter fun b =>
    denotation before window (newcomers lines) b.1.below = some node).map (·.2)

/-- **Ascending children are the newcomers below the node in wire order.** -/
theorem Ordered.added_eq (hsound : Sound start s) (hintact : Intact start s) (h : Ordered start s)
    (hplaced : Materialised start.tree s.site.builder.window lines s.tree) (node : Handle) :
    s.added start node = newcomersBelow start.tree s.site.builder.window lines node := by
  have hchildren : start.tree.children node ++ s.added start node = s.tree.children node :=
    List.prefix_iff_eq_append.mp (hintact.children node)
  have hstart := hsound.standing.anchored
  -- Both lists ascend, so it is enough that they have the same members.
  have hpair : (newcomersBelow start.tree s.site.builder.window lines node).Pairwise (· < ·) :=
    List.pairwise_map.mpr ((pairwise_born _ _).filter _)
  apply (h.sorted node).eq_of_mem_iff hpair
  intro n
  constructor
  · intro hn
    have hp : s.tree.parent? n = some node :=
      (hsound.descends.anchored.mem_children_iff node n).mp (List.mem_of_mem_drop hn)
    have hnew : start.tree.slots.size ≤ n := by
      -- An old child would be among the children twice.
      apply Nat.le_of_not_lt
      intro hold
      have hmem : n ∈ start.tree.children node :=
        (hstart.mem_children_iff node n).mpr ((hintact.parent? n hold).symm.trans hp)
      have hnodup := hsound.descends.anchored.nodup_children node
      rw [← hchildren] at hnodup
      exact List.disjoint_of_nodup_append hnodup hmem hn
    obtain ⟨nc, hborn⟩ := exists_mem_born hnew (hplaced.size ▸ Tree.lt_of_parent? hp)
    refine List.mem_map.mpr ⟨(nc, n), List.mem_filter.mpr ⟨hborn, ?_⟩, rfl⟩
    exact decide_eq_true ((hplaced.placed nc n hborn).2.2.1.symm.trans hp)
  · intro hn
    obtain ⟨⟨nc, m⟩, hmem, rfl⟩ := List.mem_map.mp hn
    obtain ⟨hborn, hbelow⟩ := List.mem_filter.mp hmem
    have hp : s.tree.parent? m = some node :=
      (hplaced.placed nc m hborn).2.2.1.trans (of_decide_eq_true hbelow)
    have hchild := (hsound.descends.anchored.mem_children_iff node m).mpr hp
    rw [← hchildren, List.mem_append] at hchild
    apply hchild.resolve_left
    intro hold
    have hlt := Tree.lt_of_parent? ((hstart.mem_children_iff node m).mp hold)
    exact Nat.not_lt.mpr (le_of_mem_born hborn) hlt

/-- **Forward references are invisible in the result: siblings end in wire order.**  Of a plain
reply without removals and with fresh ids, run without a fault from any state that passes lead to,
the children of every node are those from before, followed by the newcomers whose commands name the
node, in the order of the commands. -/
theorem run_wire_order {builder : Builder} {host : Host} {reply : Reply}
    (hreach : Reachable builder host.tree)
    (hremove : ∀ line ∈ reply.lines, ∀ id, line.command ≠ .remove id)
    (hplain : Plain reply.lines)
    (hfresh : FreshIds host.tree (builder.run host reply).2.1.window reply.lines)
    (hok : (builder.run host reply).1 = .ok ()) (node : Handle) :
    (builder.run host reply).2.2.tree.children node =
      host.tree.children node ++
        newcomersBelow host.tree (builder.run host reply).2.1.window reply.lines node := by
  obtain ⟨s, hreached, hwindow, -, hend⟩ := Builder.run_stage reply hreach.standing
  obtain ⟨hwaiting, hnews, hhost⟩ := hend hok
  have hsound := hreached.sound hreach.standing
  have hintact := hreached.intact hreach.standing hremove hfresh.nodup
  have hordered := hreached.ordered hreach.standing hplain hremove hfresh.nodup
  rw [hwindow] at hfresh ⊢
  have hadded := hordered.added_eq hsound hintact
    (hintact.materialised hsound hwaiting hnews hfresh) node
  have hchildren := List.prefix_iff_eq_append.mp (hintact.children node)
  rw [hhost]
  exact hchildren.symm.trans (congrArg (host.tree.children node ++ ·) hadded)

/-- Two labels and a text of a box that comes between them, in a window that comes last. -/
theorem run_wire_order_box :
    ∃ reply : Reply, reply.lines =
        [(Command.create "a" "label" (some "b")).toLine,
          (Command.create "b" "box" (some "w")).toLine,
          (Command.set "b" "textNode" (some "and")).toLine,
          (Command.create "c" "label" (some "b")).toLine, (Command.window "w").toLine] ∧
      (Builder.new.run { tree := .new } reply).2.2.tree.children 2 =
        Tree.new.children 2 ++ newcomersBelow Tree.new
          (Builder.new.run { tree := .new } reply).2.1.window reply.lines 2 := by
  have hreach : Reachable Builder.new ({ tree := .new } : Host).tree := .new
  refine ⟨⟨"", _⟩, rfl, ?_⟩
  refine run_wire_order hreach (fun line hline id => ?_) ⟨?_, fun id tag parent hmem => ?_⟩
    (.of_new ?_ ?_) ?_ 2
  · simp only [List.mem_cons, List.not_mem_nil, or_false] at hline
    rcases hline with rfl | rfl | rfl | rfl | rfl <;>
      simp [Command.toLine, Line.command, windowTag]
  · decide +kernel
  · simp [newcomers, Line.newcomer?, Command.toLine, Line.command, windowTag] at hmem
    rcases hmem with ⟨-, -, rfl⟩ | ⟨-, -, rfl⟩ | ⟨-, -, rfl⟩ <;> rfl
  · decide +kernel
  · decide +kernel
  · decide +kernel

end RemoteUi
