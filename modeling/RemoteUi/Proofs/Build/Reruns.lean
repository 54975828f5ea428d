import RemoteUi.Proofs.Build.Books
import RemoteUi.Proofs.Build.Passes
import RemoteUi.Proofs.Tree.Additions
import RemoteUi.Proofs.Tree.Rewrites

/-!
# Passes that are run again

A command that sets an attribute, a flag or the selected entry overwrites settings of one element, and
which element it is, and whether there is one, does not depend on settings.  So on all trees of one
shape such commands do the same, and the second run of a reply made of them overwrites what the first
one wrote by the same.  Texts and operations are different: each of them adds to what is there.

* §1 hosts that refuse nothing;
* §2 steps that rewrite elements;
* §3 runs of replies that rewrite;
* §4 texts and operations;
* §5 the theorem.
-/

namespace RemoteUi

open RemoteUi.Wire

/-! ## §1 Willing hosts -/

/-- A host refuses no kind of request and objects to none. -/
structure Host.Willing (host : Host) : Prop where
  refuses : ∀ operation, host.refuses operation = false
  objects : ∀ calls, host.objects calls = none

/-- **A willing host passes on what it is asked for.** -/
theorem Host.Willing.perform {host : Host} (h : host.Willing) {α : Type} (call : Call)
    (act : Edit α) : Host.perform call act host = forward act (host.noted call) := by
  have hnote : ∀ rest : Unit → HostEdit α,
      (note call >>= rest) host = rest () (host.noted call) := fun _ => rfl
  simp only [Host.perform, hnote]
  cases call.operation? with
  | none => rfl
  | some operation =>
    have hrefuses : (host.noted call).refuses operation = false := h.refuses operation
    have hobjects : (host.noted call).objects (host.noted call).journal = none := h.objects _
    simp only [get_bind_apply, hrefuses, hobjects, Bool.false_eq_true, if_false]

/-! ## §2 Rewriting steps -/

/-- The site with elements rewritten, and with another journal. -/
def Site.rewritten (site : Site) (rs : Handle → Rewriting) (journal : List Call) : Site :=
  { site with host := { site.host with tree := site.host.tree.rewrite rs, journal } }

/-- Sites that differ in settings of elements and in their journals only. -/
structure Site.Alike (origin site : Site) : Prop where
  window : site.builder.window = origin.builder.window
  created : site.builder.created = origin.builder.created
  shape : origin.tree.SameShape site.tree
  willing : site.host.Willing

section Sites

variable {origin site : Site}

theorem Site.rewritten_none (site : Site) :
    site.rewritten (fun _ => .none) site.host.journal = site := by
  simp only [rewritten, Tree.rewrite_none]

theorem Site.rewritten_rewritten (site : Site) (rs rs' : Handle → Rewriting)
    (journal journal' : List Call) : (site.rewritten rs journal).rewritten rs' journal' =
      site.rewritten (fun node => (rs node).andThen (rs' node)) journal' := by
  simp only [rewritten, Tree.rewrite_rewrite]

theorem Site.Alike.rewritten (h : origin.Alike site) (rs : Handle → Rewriting)
    (journal : List Call) : origin.Alike (site.rewritten rs journal) where
  window := h.window
  created := h.created
  shape := h.shape.trans (site.tree.sameShape_rewrite rs)
  willing := ⟨h.willing.refuses, h.willing.objects⟩

/-- At sites that are alike an id denotes the same node. -/
theorem Site.Alike.resolve? (h : origin.Alike site) (id : NodeId) :
    site.resolve? id = origin.resolve? id := by
  have hlookup : site.host.tree.lookup? id = origin.host.tree.lookup? id := h.shape.lookup? id
  simp only [Site.resolve?, h.window, h.created, hlookup]

/-- At sites that are alike the same nodes are elements. -/
theorem Site.Alike.isSome_element? (h : origin.Alike site) {node : Handle}
    (hnode : (origin.tree.element? node).isSome) : (site.tree.element? node).isSome := by
  rw [Tree.isSome_element?, h.shape.kind?, ← Tree.isSome_element?]
  exact hnode

theorem Site.Alike.element?_eq_none (h : origin.Alike site) {node : Handle}
    (hnode : origin.tree.element? node = none) : site.tree.element? node = none := by
  have hsome : (site.tree.element? node).isSome = (origin.tree.element? node).isSome := by
    rw [Tree.isSome_element?, h.shape.kind?, ← Tree.isSome_element?]
  rw [hnode] at hsome
  exact Option.not_isSome_iff_eq_none.mp (by simp [hsome])

end Sites

namespace Build

/-- The outcome with a given fault, or without one. -/
def verdict (fault? : Option Fault) (site : Site) : EStateM.Result Fault Site Unit :=
  match fault? with
  | none => .ok () site
  | some fault => .error fault site

/-- A step does nothing but rewrite elements, and it does the same and faults in the same way at all
sites that are alike. -/
def Rewrites (origin : Site) (step : Build Unit) : Prop :=
  ∃ rs fault?, ∀ site, origin.Alike site →
    ∃ journal, step site = verdict fault? (site.rewritten rs journal)

section Rules

variable {origin site : Site} {step next : Build Unit}

/-- A step that leaves the site as it is. -/
theorem rewrites_of_still (fault? : Option Fault)
    (h : ∀ site, origin.Alike site → step site = verdict fault? site) : Rewrites origin step := by
  refine ⟨fun _ => .none, fault?, fun site hsite => ⟨site.host.journal, ?_⟩⟩
  rw [h site hsite, site.rewritten_none]

theorem rewrites_pure : Rewrites origin (pure ()) := rewrites_of_still none fun _ _ => rfl

theorem Rewrites.bind (h : Rewrites origin step) (hnext : Rewrites origin next) :
    Rewrites origin (step >>= fun _ => next) := by
  obtain ⟨rs, fault?, hstep⟩ := h
  cases fault? with
  | some fault =>
    -- What follows is not taken.
    refine ⟨rs, some fault, fun site hsite => ?_⟩
    obtain ⟨journal, hs⟩ := hstep site hsite
    exact ⟨journal, bind_of_error hs⟩
  | none =>
    obtain ⟨rs', fault?, hnext⟩ := hnext
    refine ⟨fun node => (rs node).andThen (rs' node), fault?, fun site hsite => ?_⟩
    obtain ⟨journal, hs⟩ := hstep site hsite
    obtain ⟨journal', hs'⟩ := hnext _ (hsite.rewritten rs journal)
    refine ⟨journal', ?_⟩
    rw [bind_of_ok hs, hs', Site.rewritten_rewritten]

theorem Rewrites.onLine (h : Rewrites origin step) (line : Line) :
    Rewrites origin (onLine line step) := by
  obtain ⟨rs, fault?, hstep⟩ := h
  refine ⟨rs, fault?.map (.command line), fun site hsite => ?_⟩
  obtain ⟨journal, hs⟩ := hstep site hsite
  refine ⟨journal, ?_⟩
  simp only [Build.onLine, hs]
  cases fault? <;> rfl

theorem rewrites_forM {α : Type} {f : α → Build Unit} {xs : List α}
    (h : ∀ x ∈ xs, Rewrites origin (f x)) : Rewrites origin (xs.forM f) := by
  induction xs with
  | nil => exact rewrites_pure
  | cons x xs ih =>
    apply (h x List.mem_cons_self).bind
    exact ih fun y hy => h y (List.mem_cons_of_mem _ hy)

/-- The id is resolved to the same node, or to none, at all sites that are alike. -/
theorem rewrites_resolve_bind {id : NodeId} {next : Handle → Build Unit}
    (h : ∀ node, Rewrites origin (next node)) : Rewrites origin (resolve id >>= next) := by
  cases hr : origin.resolve? id with
  | none =>
    refine rewrites_of_still (some (.unresolved id)) fun site hsite => ?_
    exact bind_of_error (resolve_of_none ((hsite.resolve? id).trans hr))
  | some node =>
    obtain ⟨rs, fault?, hnext⟩ := h node
    refine ⟨rs, fault?, fun site hsite => ?_⟩
    rw [bind_of_ok (resolve_of_some ((hsite.resolve? id).trans hr))]
    exact hnext site hsite

/-- An edit of a willing host that rewrites its tree. -/
theorem edit_of_rewrite (h : site.host.Willing) (call : Call) {act : Edit Unit}
    {rs : Handle → Rewriting} (hact : act site.tree = .ok () (site.tree.rewrite rs)) :
    ∃ journal, edit (Host.perform call act) site = .ok () (site.rewritten rs journal) := by
  refine ⟨site.host.journal ++ [call], ?_⟩
  have hforward : Host.forward act (site.host.noted call) =
      .ok () { site.host.noted call with tree := site.tree.rewrite rs } := by
    have htree : (site.host.noted call).tree = site.tree := rfl
    simp only [Host.forward, htree, hact]
  simp only [edit, h.perform, hforward]
  rfl

/-- An edit of a willing host that its tree refuses. -/
theorem edit_of_error (h : site.host.Willing) (call : Call) {act : Edit Unit} {e : TreeError}
    (hact : act site.tree = .error e site.tree) :
    ∃ journal, edit (Host.perform call act) site =
      .error (.host e) (site.rewritten (fun _ => .none) journal) := by
  refine ⟨site.host.journal ++ [call], ?_⟩
  have hforward : Host.forward act (site.host.noted call) =
      .error e (site.host.noted call) := by
    have htree : (site.host.noted call).tree = site.tree := rfl
    simp only [Host.forward, htree, hact]
    rfl
  simp only [edit, h.perform, hforward, Site.rewritten, Tree.rewrite_none]
  rfl

/-- An edit that rewrites one element, if it is one. -/
theorem rewrites_edit (call : Call) {act : Edit Unit} (node : Handle) (r : Rewriting)
    (hact : act = Tree.modifyElement node r.apply) :
    Rewrites origin (edit (Host.perform call act)) := by
  subst hact
  cases helement : origin.tree.element? node with
  | some e =>
    refine ⟨r.at node, none, fun site hsite => ?_⟩
    refine edit_of_rewrite hsite.willing call (Tree.modifyElement_rewriting r ?_)
    exact hsite.isSome_element? (Option.isSome_of_eq_some helement)
  | none =>
    refine ⟨fun _ => .none, some (.host .notAnElement), fun site hsite => ?_⟩
    exact edit_of_error hsite.willing call
      (Tree.modifyElement_of_isNone (hsite.element?_eq_none helement))

theorem rewrites_setAttribute (node : Handle) (key value : String) :
    Rewrites origin (edit (Host.setAttribute node key value)) :=
  rewrites_edit _ node (.setAttribute key value) rfl

theorem rewrites_setFlag (node : Handle) (key : String) (value : Option String) :
    Rewrites origin (setFlag node key value) := by
  unfold setFlag
  split
  · exact rewrites_setAttribute _ _ _
  · exact rewrites_edit _ node (.removeAttribute key) rfl

/-- **The selected entry is set in three edits, and none of them is reported.** -/
theorem rewrites_setQuietly (node : Handle) (key value : String) :
    Rewrites origin (setQuietly node key value) := by
  cases helement : origin.tree.element? node with
  | none =>
    -- The first edit fails already.
    refine ⟨fun _ => .none, some (.host .notAnElement), fun site hsite => ?_⟩
    obtain ⟨journal, hfail⟩ := edit_of_error hsite.willing
      (.setAttribute node Tree.suppressKey "true")
      (Tree.modifyElement_of_isNone (hsite.element?_eq_none helement))
    exact ⟨journal, bind_of_error hfail⟩
  | some e =>
    have hnode : (origin.tree.element? node).isSome := Option.isSome_of_eq_some helement
    refine ⟨fun n => (((Rewriting.setAttribute Tree.suppressKey "true").at node n).andThen
      ((Rewriting.setProperty key value).at node n)).andThen
        ((Rewriting.setAttribute Tree.suppressKey "false").at node n), none, fun site hsite => ?_⟩
    obtain ⟨j₁, hquiet⟩ := edit_of_rewrite hsite.willing
      (.setAttribute node Tree.suppressKey "true")
      (Tree.modifyElement_rewriting (.setAttribute Tree.suppressKey "true")
        (hsite.isSome_element? hnode))
    -- By now the element keeps quiet.
    have hsite₁ := hsite.rewritten ((Rewriting.setAttribute Tree.suppressKey "true").at node) j₁
    obtain ⟨j₂, hset⟩ := edit_of_rewrite hsite₁.willing (.setProperty node key value)
      (Tree.setProperty_of_isSuppressed key value (hsite₁.isSome_element? hnode)
        (Tree.isSuppressed_rewrite (hsite.isSome_element? hnode)))
    have hsite₂ := hsite₁.rewritten ((Rewriting.setProperty key value).at node) j₂
    obtain ⟨j₃, hloud⟩ := edit_of_rewrite hsite₂.willing
      (.setAttribute node Tree.suppressKey "false")
      (Tree.modifyElement_rewriting (.setAttribute Tree.suppressKey "false")
        (hsite₂.isSome_element? hnode))
    rw [Site.rewritten_rewritten] at hset
    rw [Site.rewritten_rewritten, Site.rewritten_rewritten] at hloud
    exact ⟨j₃, (bind_of_ok hquiet).trans ((bind_of_ok hset).trans hloud)⟩

/-- **A key that stands for neither a text nor an operation rewrites elements.** -/
theorem rewrites_setKey (id : NodeId) {key : String} (value : Option String) (htext : key ≠ textKey)
    (hoperation : key ∉ operationKeys) : Rewrites origin (setKey id key value) := by
  apply rewrites_resolve_bind
  intro node
  rw [if_neg htext]
  split
  · exact rewrites_setFlag node key value
  rw [if_neg (by simpa using hoperation)]
  split
  · exact rewrites_setQuietly node key (value.getD "")
  · exact rewrites_setAttribute node key (value.getD "")

end Rules

end Build

/-! ## §3 Runs -/

/-- A line sets something other than a text or an operation. -/
def Wire.Line.Overwrites (line : Line) : Prop :=
  ∃ id key value, line.command = .set id key value ∧ key ≠ textKey ∧ key ∉ operationKeys

section Runs

open Build

variable {origin : Site} {line : Line} {lines : List Line}

theorem Build.rewrites_performLate (h : line.Overwrites) : Rewrites origin (performLate line) := by
  obtain ⟨id, key, value, hc, htext, hoperation⟩ := h
  rw [performLate_of_set hc]
  exact rewrites_setKey id value htext hoperation

theorem Build.rewrites_perform (h : line.Overwrites) (hlate : line.isLate = false) :
    Rewrites origin (perform line) := by
  obtain ⟨id, key, value, hc, htext, hoperation⟩ := h
  rw [perform_of_set hc hlate]
  exact rewrites_setKey id value htext hoperation

/-- The lines that are not late rewrite elements, and nothing is held back after them. -/
theorem Build.rewrites_early (h : ∀ line ∈ lines, line.Overwrites) :
    Rewrites origin (commands (lines.filter (!·.isLate))) := by
  apply rewrites_forM
  intro line hline
  obtain ⟨hmem, hlate⟩ := List.mem_filter.mp hline
  exact (rewrites_perform (h line hmem) (by simpa using hlate)).onLine line

theorem Build.rewrites_late (h : ∀ line ∈ lines, line.Overwrites) :
    Rewrites origin ((lines.filter (·.isLate)).forM fun line => onLine line (performLate line)) := by
  apply rewrites_forM
  intro line hline
  exact (rewrites_performLate (h line (List.mem_filter.mp hline).1)).onLine line

/-- What a run comes to that rewrites the tree of the host. -/
structure Comes (host : Host) (rs : Handle → Rewriting) (fault? : Option Fault)
    (window : Option NodeId) (run : Except Fault Unit × Builder × Host) : Prop where
  result : run.1 = match fault? with
    | none => .ok ()
    | some fault => .error fault
  tree : run.2.2.tree = host.tree.rewrite rs
  window : run.2.1.window = window
  willing : run.2.2.Willing

/-- A run in which nothing is held back, taken apart into the lines that are not late and those that
are. -/
theorem Builder.comes_of_early_late {builder : Builder} {host : Host} {reply : Reply}
    {s s' : Site} {rs : Handle → Rewriting} {fault? : Option Fault}
    (hearly : commands (reply.lines.filter (!·.isLate)) ⟨builder.rested, host⟩ = .ok () s)
    (hheld : s.builder = builder.rested)
    (hlate : (reply.lines.filter (·.isLate)).forM (fun line => onLine line (performLate line)) s =
      verdict fault? s')
    (htree : s'.tree = host.tree.rewrite rs) (hwindow : s'.builder.window = builder.window)
    (hwilling : s'.host.Willing) :
    Comes host rs fault? builder.window (builder.run host reply) := by
  have hdock : dockAll s = .ok () s := by
    obtain ⟨builder', host'⟩ := s
    cases hheld
    rfl
  have heq := groundwork_eq reply.lines ⟨builder, host⟩
  rw [groundwork_apply, bind_of_ok hearly, hdock] at heq
  -- The late lines are taken out of the books and carried out.
  have hall : performAllLate (s.withLate (reply.lines.filter (·.isLate))) =
      verdict fault? s' := by
    have hsame : (s.withLate (reply.lines.filter (·.isLate))).withLate [] = s := by
      rw [Site.withLate_withLate]
      obtain ⟨builder', host'⟩ := s
      cases hheld
      rfl
    rw [← hlate, ← hsame]
    rfl
  have hpass : pass reply.lines ⟨builder, host⟩ =
      finish (s.withLate (reply.lines.filter (·.isLate))) :=
    (pass_eq reply.lines _).trans (bind_of_ok heq)
  unfold Builder.run
  rw [hpass, finish]
  cases fault? with
  | some fault =>
    rw [bind_of_error hall]
    exact ⟨rfl, htree, hwindow, hwilling⟩
  | none =>
    rw [bind_of_ok hall]
    exact ⟨rfl, htree, hwindow, hwilling⟩

/-- **On all trees of one shape a reply that rewrites does the same.** -/
theorem Builder.exists_comes (builder : Builder) (tree : Tree) {reply : Reply}
    (h : ∀ line ∈ reply.lines, line.Overwrites) :
    ∃ rs fault?, ∀ host : Host, tree.SameShape host.tree → host.Willing →
      Comes host rs fault? builder.window (builder.run host reply) := by
  let origin : Site := ⟨builder.rested, { tree }⟩
  have halike : ∀ host : Host, tree.SameShape host.tree → host.Willing →
      origin.Alike ⟨builder.rested, host⟩ := fun host hshape hwilling => ⟨rfl, rfl, hshape, hwilling⟩
  obtain ⟨rs, fault?, hearly⟩ : Rewrites origin _ := rewrites_early h
  cases fault? with
  | some fault =>
    -- A fault at a line that is not late keeps the late ones from being taken up.
    refine ⟨rs, some fault, fun host hshape hwilling => ?_⟩
    obtain ⟨journal, hs⟩ := hearly _ (halike host hshape hwilling)
    have hsite := (halike host hshape hwilling).rewritten rs journal
    have heq := groundwork_eq reply.lines ⟨builder, host⟩
    rw [groundwork_apply, bind_of_error hs] at heq
    obtain ⟨late, heq⟩ := heq
    rw [run_of_groundwork heq]
    exact ⟨rfl, rfl, rfl, hsite.willing⟩
  | none =>
    obtain ⟨rs', fault?, hlate⟩ : Rewrites origin _ := rewrites_late h
    refine ⟨fun node => (rs node).andThen (rs' node), fault?, fun host hshape hwilling => ?_⟩
    obtain ⟨journal, hs⟩ := hearly _ (halike host hshape hwilling)
    have hsite := (halike host hshape hwilling).rewritten rs journal
    obtain ⟨journal', hs'⟩ := hlate _ hsite
    have hboth := hsite.rewritten rs' journal'
    rw [Site.rewritten_rewritten] at hs' hboth
    exact comes_of_early_late hs rfl hs' rfl rfl hboth.willing

/-- **The second run of a reply that rewrites ends as the first one did, and leaves the tree that the
first one left.** -/
theorem Builder.run_twice {builder : Builder} {host : Host} {reply : Reply}
    (hwilling : host.Willing) (h : ∀ line ∈ reply.lines, line.Overwrites) :
    let first := builder.run host reply
    let second := first.2.1.run first.2.2 reply
    second.1 = first.1 ∧ second.2.2.tree = first.2.2.tree := by
  obtain ⟨rs, fault?, hcomes⟩ := builder.exists_comes host.tree h
  have hfirst := hcomes host (.refl _) hwilling
  -- The first run leaves a tree of the same shape, so the second one rewrites it in the same way.
  have hshape : host.tree.SameShape (builder.run host reply).2.2.tree := by
    rw [hfirst.tree]
    exact host.tree.sameShape_rewrite rs
  have hsecond := hcomes _ hshape hfirst.willing
  have hsame := run_congr hfirst.window (builder.run host reply).2.2 reply
  rw [← hsame] at hsecond
  refine ⟨hsecond.result.trans hfirst.result.symm, ?_⟩
  rw [hsecond.tree, hfirst.tree, Tree.rewrite_twice]

end Runs

/-! ## §4 Texts and operations -/

section Additions

open Build

variable {builder : Builder} {host : Host} {lines : List Line} {line : Line} {id : NodeId}
  {key : String} {value : Option String} {site s : Site}

/-- **A text that is set comes below its node, after everything that is there.** -/
theorem Build.textAdded_of_perform (hc : line.command = .set id textKey value)
    (ha : site.tree.Anchored) (h : perform line site = .ok () s) :
    ∃ node, site.resolve? id = some node ∧
      Tree.TextAdded site.tree s.tree node (value.getD "") := by
  have hleads : Leads (perform line) site (fun _ s => ∃ node, site.resolve? id = some node ∧
      Tree.TextAdded site.tree s.tree node (value.getD "")) fun _ => True := by
    -- The key of texts is no late one.
    have hlate : line.isLate = false := by
      simp only [Line.isLate, hc]
      decide
    rw [perform_of_set hc hlate]
    apply leads_resolve_bind trivial
    intro node hr
    rw [if_pos rfl]
    refine leads_createText_bind _ (leads_append (ha.push_text _) (Site.loose_write ha _)
      (fun hopen => ?_) trivial)
    exact ⟨node, hr, ha.toWellFormed.textAdded (Site.isSome_element?_of_open_write hopen) _⟩
  exact hleads.of_ok h

/-- **An operation is invoked once, and no snapshot shows it.** -/
theorem Build.invoked_of_performLate (hc : line.command = .set id key value)
    (hkey : key ∈ operationKeys) (h : performLate line site = .ok () s) :
    ∃ node, site.resolve? id = some node ∧ Tree.Invoked site.tree s.tree node key := by
  have hleads : Leads (performLate line) site (fun _ s => ∃ node, site.resolve? id = some node ∧
      Tree.Invoked site.tree s.tree node key) fun _ => True := by
    obtain rfl : key = "sizeToContent" := List.mem_singleton.mp hkey
    rw [performLate_of_set hc]
    apply leads_resolve_bind trivial
    intro node hr
    rw [if_neg (by decide), if_neg (by decide), if_pos (by decide)]
    refine leads_edit_perform _ (Tree.atomic_invoke _ _) (fun _ tree htree => ?_) trivial
    exact ⟨node, hr, Tree.invoked_of_invoke htree⟩
  exact hleads.of_ok h

/-- Where a line is taken up the tree is anchored. -/
theorem Build.TakesUp.anchored (hstart : Standing builder host.tree)
    (h : TakesUp lines ⟨builder.rested, host⟩ (.command line) s) : s.tree.Anchored := by
  obtain ⟨before, after, -, hbefore⟩ := h.of_command
  have hsettled : Settled ⟨builder, host⟩ before (newcomers before) none s :=
    settled_of_commands hstart hbefore
  exact (hsettled.reached.sound hstart).descends.anchored

end Additions

/-! ## §5 The theorem -/

open Build in
/-- **Settings that are written again stay as they are; texts and operations add up.**  A reply that
only sets attributes, flags and selected entries, run a second time, ends in the same way and leaves
the same tree, fault or not.  In any run, a text that is set is one more child of its node, the last
one, and its content comes after the content that was there; and an operation that is invoked is noted
once more, and no snapshot shows it. -/
theorem Builder.run_again {builder : Builder} {host : Host} (hreach : Reachable builder host.tree)
    (reply : Reply) :
    (host.Willing → (∀ line ∈ reply.lines, line.Overwrites) →
      let first := builder.run host reply
      let second := first.2.1.run first.2.2 reply
      second.1 = first.1 ∧ second.2.2.tree = first.2.2.tree) ∧
    (∀ line id value s s', TakesUp reply.lines ⟨builder.rested, host⟩ (.command line) s →
      line.command = .set id textKey value → perform line s = .ok () s' →
      ∃ node, s.resolve? id = some node ∧ Tree.TextAdded s.tree s'.tree node (value.getD "")) ∧
    ∀ line id key value s s', TakesUp reply.lines ⟨builder.rested, host⟩ (.late line) s →
      line.command = .set id key value → key ∈ operationKeys → performLate line s = .ok () s' →
      ∃ node, s.resolve? id = some node ∧ Tree.Invoked s.tree s'.tree node key := by
  refine ⟨run_twice, ?_, ?_⟩
  · intro line id value s s' htask hc hs
    exact textAdded_of_perform hc (htask.anchored hreach.standing) hs
  · intro line id key value s s' _ hc hkey hs
    exact invoked_of_performLate hc hkey hs

/-- A window with a list. -/
def listWindow : Reply :=
  ⟨"", [(Command.window "w").toLine, (Command.create "l" "listbox" (some "w")).toLine]⟩

/-- The selected entry of a list, its flag and its silence, and the entry of a list that is not
there. -/
def listSettings : Reply :=
  ⟨"", [(Command.set "l" "selectedIndex" (some "1")).toLine,
    (Command.set "l" "disabled" (some "1")).toLine,
    (Command.set "l" "suppressonselect" (some "true")).toLine,
    (Command.set "l" "disabled" none).toLine,
    (Command.set "x" "selectedIndex" (some "2")).toLine]⟩

theorem Builder.run_again_listSettings :
    ∃ builder host, Reachable builder host.tree ∧ host.Willing ∧
      builder = (Builder.new.run { tree := .new } listWindow).2.1 ∧
      host = (Builder.new.run { tree := .new } listWindow).2.2 ∧
      (∀ line ∈ listSettings.lines, line.Overwrites) ∧
      let first := builder.run host listSettings
      let second := first.2.1.run first.2.2 listSettings
      second.1 = first.1 ∧ second.2.2.tree = first.2.2.tree := by
  have hnew : Reachable Builder.new ({ tree := .new } : Host).tree := .new
  have hreach := hnew.run listWindow
  have hwilling : (Builder.new.run { tree := .new } listWindow).2.2.Willing :=
    ⟨fun _ => rfl, fun _ => rfl⟩
  have hlines : ∀ line ∈ listSettings.lines, line.Overwrites := by
    intro line hline
    simp only [listSettings, List.mem_cons, List.not_mem_nil, or_false] at hline
    rcases hline with rfl | rfl | rfl | rfl | rfl <;> exact ⟨_, _, _, rfl, by decide, by decide⟩
  exact ⟨_, _, hreach, hwilling, rfl, rfl, hlines,
    (Builder.run_again hreach listSettings).1 hwilling hlines⟩

end RemoteUi
