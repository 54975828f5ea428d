import RemoteUi.Proofs.Build.Aftermath
import RemoteUi.Proofs.Build.Materialisation

/-!
# Removals and the commands after them

When an element is removed in a pass, all that is below it is out of the tree for the rest of the
pass.  No command removes any of it again; and of the commands that set a key or create an element
below, none comes to the removed element itself or to an older one below it.  Only elements that were
created in the same pass below the removed one are still denoted by their ids.

* §1 the site of a removal;
* §2 what a removal means for the rest of a run;
* §3 every removal;
* §4 an element that was created below a removed one.
-/

namespace RemoteUi

open RemoteUi.Wire

open Build

/-! ## §1 The site of a removal -/

/-- An element is found under an id, and it is below a node or the node itself. -/
structure Tree.FindsBelow (tree : Tree) (top : Handle) (id : NodeId) (node : Handle) : Prop where
  lookup? : tree.lookup? id = some node
  upward : tree.Upward node top

section Cut

variable {start s gone : Site} {before after lines : List Line} {held : List Held} {line : Line}
  {window : Option NodeId} {x id : NodeId} {top parent node : Handle}

/-- A removal that succeeds takes an attached element from its parent, and its id out of the books. -/
theorem Build.cut_of_perform (hc : line.command = .remove x)
    (h : perform line s = .ok () gone) : ∃ top parent, s.tree.lookup? x = some top ∧
      s.tree.parent? top = some parent ∧ gone = s.cut x parent top := by
  have hleads : Leads (perform line) s (fun _ s' => ∃ top parent, s.tree.lookup? x = some top ∧
      s.tree.parent? top = some parent ∧ s' = s.cut x parent top) fun _ => True := by
    unfold perform
    rw [hc]
    apply leads_get_bind
    cases hlookup : s.host.tree.lookup? x with
    | none => exact leads_throw trivial
    | some top =>
      apply leads_get_bind
      cases s.host.parent? top with
      | none => exact leads_throw trivial
      | some parent =>
        refine Leads.bind (leads_edit_perform _ (Tree.atomic_remove parent top)
          (fun _ tree ht => ?_) trivial) fun _ s' hs' => hs'
        rw [Tree.remove_eq] at ht
        split at ht
        · next hp =>
          cases ht
          exact leads_remember ⟨top, parent, hlookup, hp, rfl⟩
        · cases ht
  exact hleads.of_ok h

/-- Under fresh ids an attached element with an id is an old one, and its id is not that of a
newcomer, or it came with one of the lines so far. -/
theorem Sound.old_or_new (h : Sound start ⟨s, held, newcomers before⟩)
    (hfresh : FreshIds start.tree window lines) (hatt : s.tree.isAttached node)
    (hid : s.tree.id? node = some id) :
    node < start.tree.slots.size ∧ id ∉ newIds (newcomers lines) ∨
      start.tree.slots.size ≤ node ∧ id ∈ newIds (newcomers before) := by
  rcases Nat.lt_or_ge node start.tree.slots.size with hold | hnew
  · refine .inl ⟨hold, fun hmem => hfresh.attached id hmem node ?_ ?_⟩
    · exact h.descends.isAttached h.standing.anchored hold hatt
    · exact (h.descends.id?_eq hold).symm.trans hid
  · obtain ⟨nc, hborn, hnc⟩ := h.born_of_id? hnew hid
    exact .inr ⟨hnew, mem_newIds_of_mem_born hborn hnc⟩

/-- What was found below the removed node was attached, with its id. -/
theorem Sound.attached_of_sank (h : Sound start ⟨s, held, newcomers before⟩)
    (hlookup : s.tree.lookup? x = some top) (hsank : (s.cut x parent top).Sank top id) :
    ∃ node, s.tree.isAttached node ∧ s.tree.id? node = some id := by
  obtain ⟨node, hup, hget⟩ := hsank
  have ha := h.descends.anchored
  rw [Site.tree_cut] at hup hget
  rw [Tree.ids_detach] at hget
  exact ⟨node, ha.isAttached_of_upward (Tree.upward_detach_iff.mp hup) (ha.of_lookup? hlookup).2,
    ha.ids id node hget⟩

/-- What was found below the removed node is one of the subtree. -/
theorem Tree.FindsBelow.sank (h : s.tree.FindsBelow top id node) (x : NodeId) (parent : Handle) :
    (s.cut x parent top).Sank top id := by
  refine ⟨node, Tree.upward_detach_iff.mpr h.upward, ?_⟩
  rw [Site.tree_cut, Tree.ids_detach]
  exact (Tree.lookup?_eq_some_iff.mp h.lookup?).1

/-- **After the removal of an element under fresh ids the subtree is out of the tree**, and no
element of it waits. -/
theorem Sound.aftermath (h : Sound start ⟨s, held, newcomers before⟩)
    (hfresh : FreshIds start.tree window lines) (hbefore : before <+: lines)
    (hlookup : s.tree.lookup? x = some top) (parent : Handle) :
    Aftermath (s.cut x parent top) top [] held (s.cut x parent top) where
  sunk := by
    have ha := h.descends.anchored
    have htop := (ha.of_lookup? hlookup).1
    refine .refl (ha.detach top) ?_ ?_ (ha.ne_root_of_id? htop)
    · rw [Site.tree_cut, Tree.parent?_detach, if_pos rfl]
    · rw [Site.tree_cut, Tree.size_detach]
      exact Tree.lt_of_id? htop
  created _ _ := rfl
  forgets _ _ hforgets := hforgets
  apart e he := by
    have ha := h.descends.anchored
    have hloose := (h.loose_of_waiting he).not_isAttached ha
    constructor
    · intro hup
      rw [Site.tree_cut, Tree.upward_detach_iff] at hup
      exact hloose (ha.isAttached_of_upward hup (ha.of_lookup? hlookup).2)
    · intro hsank
      obtain ⟨node, hatt, hid⟩ := h.attached_of_sank hlookup hsank
      obtain ⟨tag, hborn⟩ := h.waiting e he
      have hmem := mem_newIds_of_mem_born hborn rfl
      rcases h.old_or_new hfresh hatt hid with ⟨-, hnot⟩ | ⟨hnew, -⟩
      · exact hnot (newIds_subset (newcomers_isPrefix hbefore) hmem)
      · -- Of the newcomers one has the id, and this one is attached.
        have hnodup := nodup_newIds_of_isPrefix (newcomers_isPrefix hbefore) hfresh.nodup
        have heq := h.eq_of_id? hnodup hnew (le_of_mem_born hborn) hid (h.id?_of_born hborn rfl)
        exact hloose (heq ▸ hatt)
  awaited _ hline := nomatch hline

/-- No later line creates an element under an id of the subtree. -/
theorem Sound.not_sank_of_create (h : Sound start ⟨s, held, newcomers before⟩)
    (hfresh : FreshIds start.tree window lines) (hlines : lines = before ++ line :: after)
    (hlookup : s.tree.lookup? x = some top) (parent : Handle) :
    ∀ l ∈ after, ∀ id tag word, l.command = .create id tag word →
      ¬ (s.cut x parent top).Sank top id := by
  intro l hl id tag word hc hsank
  obtain ⟨node, hatt, hid⟩ := h.attached_of_sank hlookup hsank
  have hlater : id ∈ newIds (newcomers (line :: after)) := by
    have hnc : l.newcomer? = some (.element id tag word) := by simp [Line.newcomer?, hc]
    exact mem_newIds_iff.mpr ⟨tag, word,
      List.mem_filterMap.mpr ⟨l, List.mem_cons_of_mem _ hl, hnc⟩⟩
  have hids : newIds (newcomers lines) =
      newIds (newcomers before) ++ newIds (newcomers (line :: after)) := by
    rw [hlines]
    simp only [newIds, newcomers, List.filterMap_append]
  rcases h.old_or_new hfresh hatt hid with ⟨-, hnot⟩ | ⟨-, hearlier⟩
  · exact hnot (hids ▸ List.mem_append_right _ hlater)
  · -- Two newcomers would have the id.
    have hnodup := hfresh.nodup
    rw [hids] at hnodup
    exact List.disjoint_of_nodup_append hnodup hearlier hlater

/-- The books forget the id of the removed element, and they never had those of older ones. -/
theorem Sound.created_cut_eq_none (h : Sound start ⟨s, held, newcomers before⟩)
    (hfresh : FreshIds start.tree window lines) (hbefore : before <+: lines)
    (hlookup : s.tree.lookup? id = some node) (hcase : id = x ∨ node < start.tree.slots.size) :
    (s.cut x parent top).builder.created.get? id = none := by
  rw [Site.created_cut, Dict.get?_erase]
  split
  · rfl
  · next hne =>
    have hold := hcase.resolve_left fun heq => hne heq.symm
    obtain ⟨hid, hatt⟩ := h.descends.anchored.of_lookup? hlookup
    cases hget : s.builder.created.get? id with
    | none => rfl
    | some n =>
      -- An entry is that of a newcomer, and an old element has another id.
      obtain ⟨nc, hborn, hnc⟩ := h.created id n hget
      have hmem := newIds_subset (newcomers_isPrefix hbefore) (mem_newIds_of_mem_born hborn hnc)
      rcases h.old_or_new hfresh hatt hid with ⟨-, hnot⟩ | ⟨hnew, -⟩
      · exact absurd hmem hnot
      · exact absurd hold (Nat.not_lt.mpr hnew)

/-- They keep those of the other ones. -/
theorem Sound.created_cut_eq_some (h : Sound start ⟨s, held, newcomers before⟩)
    (hlookup : s.tree.lookup? id = some node) (hne : id ≠ x)
    (hnew : start.tree.slots.size ≤ node) :
    (s.cut x parent top).builder.created.get? id = some node := by
  rw [Site.created_cut, Dict.get?_erase, if_neg hne.symm]
  obtain ⟨hget, hatt⟩ := Tree.lookup?_eq_some_iff.mp hlookup
  -- An element that was removed before would have no parent.
  refine (h.current id node hnew hget).resolve_right fun hgone => ?_
  have ha := h.descends.anchored
  exact ha.ne_root_of_id? (ha.ids id node hget) (ha.eq_root_of_isAttached hgone.1 hatt)

/-- No id of the books is left for the removed element or for an older one. -/
theorem Sound.forgets_cut (h : Sound start ⟨s, held, newcomers before⟩)
    (hlookup : s.tree.lookup? x = some top)
    (hcase : node = top ∨ node < start.tree.slots.size) :
    (s.cut x parent top).builder.Forgets node := by
  intro id hget
  rw [Site.created_cut, Dict.get?_erase] at hget
  split at hget
  · cases hget
  · next hne =>
    obtain ⟨nc, hborn, hnc⟩ := h.created id node hget
    rcases hcase with rfl | hold
    · -- The removed element has one id, and its entry is erased.
      have hid := (h.descends.anchored.of_lookup? hlookup).1
      exact hne (Option.some.inj (hid.symm.trans (h.id?_of_born hborn hnc)))
    · exact absurd hold (Nat.not_lt.mpr (le_of_mem_born hborn))

end Cut

/-! ## §2 The rest of a run -/

/-- A task that sets a key of the node that an id denotes: a line that is not put aside, or one that
was. -/
inductive Build.Task.Sets (id : NodeId) : Task → Prop where
  | command {line : Line} {key : String} {value : Option String}
      (hc : line.command = .set id key value) (hlate : line.isLate = false) : Sets id (.command line)
  | late {line : Line} {key : String} {value : Option String}
      (hc : line.command = .set id key value) : Sets id (.late line)

theorem Build.Task.Sets.exists_run_eq {id : NodeId} {task : Task} (h : task.Sets id) :
    ∃ key value, task.run = onLine task.line (setKey id key value) := by
  cases h with
  | command hc hlate => exact ⟨_, _, by rw [Task.run, perform_of_set hc hlate, Task.line]⟩
  | late hc => exact ⟨_, _, by rw [Task.run, performLate_of_set hc, Task.line]⟩

/-- Where the id denotes nothing, this is the fault of the task. -/
theorem Build.Task.Sets.run_of_none {id : NodeId} {task : Task} {s : Site} (h : task.Sets id)
    (hnone : s.resolve? id = none) :
    task.run s = .error (.command task.line (.unresolved id)) s := by
  obtain ⟨key, value, hrun⟩ := h.exists_run_eq
  have hset : setKey id key value s = .error (.unresolved id) s :=
    bind_of_error (resolve_of_none hnone)
  simp only [hrun, onLine, hset]

/-- What the removal of the element `top`, found under `x` at `s`, means for a run that has `rest` to
go through from `gone` on.  The tree before the run is `old`. -/
structure OutOfReach (old : Tree) (rest : List Line) (s gone : Site) (x : NodeId) (top : Handle)
    (result : Except Fault Unit × Builder × Host) : Prop where
  /-- Nothing that was below the element is removed again. -/
  remove : ∀ id node, s.tree.FindsBelow top id node → ∀ line s',
    TakesUp rest gone (.command line) s' → line.command = .remove id →
    result.1 = .error (.command line (.unresolved id))
  /-- The ids of the element and of older ones below it denote nothing, unless the root bears them. -/
  set : ∀ id node, s.tree.FindsBelow top id node → id = x ∨ node < old.slots.size →
    ∀ task s', TakesUp rest gone task s' → task.Sets id → s'.builder.window ≠ some id →
    result.1 = .error (.command task.line (.unresolved id))
  /-- An element that is created below one of them finds no place. -/
  create : ∀ id node, s.tree.FindsBelow top id node → id = x ∨ node < old.slots.size →
    ∀ line ∈ rest, ∀ other tag, line.command = .create other tag (some id) →
    result.2.1.window ≠ some id → result.1 ≠ .ok ()
  /-- Fault or not, they are what they were and have the children that they had. -/
  still : ∀ node, s.tree.Upward node top → node = top ∨ node < old.slots.size →
    result.2.2.tree.slots[node]? = gone.tree.slots[node]?
  /-- An element below the removed one that was created in the pass is denoted by its id as before. -/
  kept : ∀ id node, s.tree.FindsBelow top id node → id ≠ x → old.slots.size ≤ node →
    ∀ task s', TakesUp rest gone task s' → task.Sets id → s'.builder.window ≠ some id →
    s'.resolve? id = some node

/-! ## §3 Removals -/

section Removals

variable {gone s : Site} {top : Handle} {rest : List Line} {task : Task} {id : NodeId}

/-- Where a task that sets a key is taken up after the removal. -/
theorem Aftermath.of_sets (h : Aftermath gone top [] gone.builder.held gone)
    (hnew : ∀ line ∈ rest, ∀ id tag word, line.command = .create id tag word →
      ¬ gone.Sank top id) (htask : TakesUp rest gone task s) (hsets : task.Sets id) :
    ∃ lines waiting, Aftermath gone top lines waiting s := by
  cases hsets with
  | command hc hlate =>
    obtain ⟨lines, hs⟩ := h.of_command hnew htask
    exact ⟨lines, _, hs⟩
  | late hc => exact ⟨rest, [], h.of_late hnew htask⟩

/-- An element that is out of the tree is not removed again. -/
theorem Aftermath.run_remove {lines : List Line} {waiting : List Held} {line : Line}
    (h : Aftermath gone top lines waiting s) (hc : line.command = .remove id)
    (hsank : gone.Sank top id) :
    (Task.command line).run s = .error (.command line (.unresolved id)) s := by
  have hlookup : s.host.tree.lookup? id = none := h.lookup?_eq_none hsank
  have hremove : Build.remove id s = .error (.unresolved id) s := by
    unfold Build.remove
    rw [get_bind_apply, hlookup]
    rfl
  simp only [Task.run, onLine, perform, hc, hremove]

/-- **A removed element and the older ones below it are out of reach for the rest of the pass.**
Under fresh ids, once an element has been removed, a command that removes anything that was below it
faults, and so does a command, late or not, that sets a key of the element or of an older one below
it; no run succeeds that creates an element below one of these, and they stay as they are.  What was
created below it in the same pass is denoted as before. -/
theorem Builder.run_removed {builder : Builder} {host : Host} {reply : Reply}
    {before after : List Line} {line : Line} {x : NodeId}
    (hreach : Reachable builder host.tree)
    (hfresh : FreshIds host.tree (builder.run host reply).2.1.window reply.lines)
    (hlines : reply.lines = before ++ line :: after) (hline : line.command = .remove x)
    (hbefore : commands before ⟨builder.rested, host⟩ = .ok () s)
    (hremove : perform line s = .ok () gone) :
    ∃ top, s.tree.lookup? x = some top ∧
      OutOfReach host.tree after s gone x top (builder.run host reply) := by
  have hsettled : Settled ⟨builder, host⟩ before (newcomers before) none s :=
    settled_of_commands hreach.standing hbefore
  have hsound := hsettled.reached.sound hreach.standing
  have hprefix : before <+: reply.lines := ⟨line :: after, hlines.symm⟩
  have hlines' : reply.lines = (before ++ [line]) ++ after := by simp [hlines]
  have hcommands := commands_concat hbefore hremove
  obtain ⟨top, parent, hlookup, -, rfl⟩ := cut_of_perform hline hremove
  have hcut := hsound.aftermath hfresh hprefix hlookup parent
  have hnew := hsound.not_sank_of_create hfresh hlines hlookup parent
  have hrest := hcut.leads_proceed hnew
  have hrun := run_of_commands hlines' hcommands
  -- The fault of a later task is the fault of the run.
  have hfault : ∀ task s' fault, TakesUp after (s.cut x parent top) task s' →
      task.run s' = .error fault s' → (builder.run host reply).1 = .error fault :=
    fun task s' fault htask hs' => by rw [hrun, htask.error hs']
  refine ⟨top, hlookup, { remove := ?remove, set := ?set, create := ?create, still := ?still,
                          kept := ?kept }⟩
  case remove =>
    intro id node hfind l s' htask hc
    obtain ⟨lines, hs'⟩ := hcut.of_command hnew htask
    exact hfault _ s' _ htask (hs'.run_remove hc (hfind.sank x parent))
  case set =>
    intro id node hfind hcase task s' htask hsets hwindow
    obtain ⟨lines, waiting, hs'⟩ := hcut.of_sets hnew htask hsets
    have hforgotten : (s.cut x parent top).builder.created.get? id = none :=
      hsound.created_cut_eq_none hfresh hprefix hfind.lookup? hcase
    have hnone := (hs'.resolve?_eq (hfind.sank x parent) hwindow).trans hforgotten
    exact hfault task s' _ htask (hsets.run_of_none hnone)
  case create =>
    intro id node hfind hcase l hl other tag hc hwindow hok
    have hforgotten : (s.cut x parent top).builder.created.get? id = none :=
      hsound.created_cut_eq_none hfresh hprefix hfind.lookup? hcase
    rw [hrun] at hok hwindow
    cases hp : proceed after (s.cut x parent top) with
    | error fault s' =>
      rw [hp] at hok
      cases hok
    | ok u s' =>
      rw [hp] at hwindow
      exact hwindow ((hrest.of_ok hp).2 l hl id other tag hc (hfind.sank x parent) hforgotten)
  case still =>
    intro node hup hcase
    have hforgets : (s.cut x parent top).builder.Forgets node := hsound.forgets_cut hlookup hcase
    rw [hrun]
    cases hp : proceed after (s.cut x parent top) with
    | error fault s' =>
      exact (hrest.of_error hp).slots node (Tree.upward_detach_iff.mpr hup) hforgets
    | ok u s' =>
      exact (hrest.of_ok hp).1.slots node (Tree.upward_detach_iff.mpr hup) hforgets
  case kept =>
    intro id node hfind hne hge task s' htask hsets hwindow
    obtain ⟨lines, waiting, hs'⟩ := hcut.of_sets hnew htask hsets
    exact (hs'.resolve?_eq (hfind.sank x parent) hwindow).trans
      (hsound.created_cut_eq_some hfind.lookup? hne hge)

end Removals

/-! ## §4 A box below a removed box -/

/-- A window with a box in a box, and the outer box is removed. -/
def boxes : List Line :=
  [(Command.window "w").toLine, (Command.create "a" "box" (some "w")).toLine,
    (Command.create "b" "box" (some "a")).toLine]

/-- The site at which the outer box is removed. -/
def boxesSite : Site := siteAfter (commands boxes) ⟨Builder.new.rested, { tree := .new }⟩

/-- The outer box is removed, and an attribute is set. -/
def boxesReply (id : NodeId) : Reply :=
  ⟨"", boxes ++ (Command.remove "a").toLine :: [(Command.set id "value" (some "lost")).toLine]⟩

/-- An attribute of the outer box is set, which is a fault. -/
theorem Builder.run_removed_outerBox : ∃ gone top,
    OutOfReach Tree.new [(Command.set "a" "value" (some "lost")).toLine] boxesSite gone "a" top
      (Builder.new.run { tree := .new } (boxesReply "a")) ∧
    (Builder.new.run { tree := .new } (boxesReply "a")).1 =
      .error (.command (Command.set "a" "value" (some "lost")).toLine (.unresolved "a")) := by
  have hreach : Reachable Builder.new ({ tree := .new } : Host).tree := .new
  have hfresh : FreshIds Tree.new (Builder.new.run { tree := .new } (boxesReply "a")).2.1.window
      (boxesReply "a").lines := .of_new (by decide +kernel) (by decide +kernel)
  have hremove : perform (Command.remove "a").toLine boxesSite =
      .ok () (siteAfter (perform (Command.remove "a").toLine) boxesSite) := rfl
  obtain ⟨top, hlookup, hout⟩ := Builder.run_removed hreach hfresh rfl rfl rfl hremove
  exact ⟨_, top, hout, hout.set "a" top ⟨hlookup, .refl _⟩ (.inl rfl) _ _
    (.command (.first ..)) (.command rfl rfl) (by decide +kernel)⟩

/-- An attribute of the inner box is set, which was removed with the outer one: there is no fault,
and the inner box has the attribute. -/
theorem Builder.not_faults_innerBox : ∃ gone,
    Reachable Builder.new Tree.new ∧
    FreshIds Tree.new (Builder.new.run { tree := .new } (boxesReply "b")).2.1.window
      (boxesReply "b").lines ∧
    commands boxes ⟨Builder.new.rested, { tree := .new }⟩ = .ok () boxesSite ∧
    perform (Command.remove "a").toLine boxesSite = .ok () gone ∧
    boxesSite.tree.lookup? "a" = some 1 ∧ boxesSite.tree.FindsBelow 1 "b" 2 ∧
    (Builder.new.run { tree := .new } (boxesReply "b")).1 = .ok () ∧
    (Builder.new.run { tree := .new } (boxesReply "b")).2.2.tree.lookup? "b" = none ∧
    (Builder.new.run { tree := .new } (boxesReply "b")).2.2.tree.attribute? 2 "value" =
      some "lost" := by
  refine ⟨_, .new, .of_new ?_ ?_, rfl, rfl, ?_, ⟨?_, .single ?_⟩, ?_, ?_, ?_⟩
  all_goals decide +kernel

end RemoteUi
