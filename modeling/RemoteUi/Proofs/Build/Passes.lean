import RemoteUi.Proofs.Build.Course
import RemoteUi.Proofs.Build.LateOrder

/-!
# Passes and runs

A pass goes through its commands, docks what is still held back and sets the late attributes.  It
ends at a stage, whichever way it goes; so a state between two passes is one from which the next pass
can start.

* §1 the three parts of a pass;
* §2 runs, and the states that they lead to;
* §3 the faults of runs.
-/

namespace RemoteUi

open RemoteUi.Wire

section Passes

open Build

variable {start : Site} {lines : List Line} {news : List Newcomer} {site : Site}

/-! ## §1 The parts of a pass -/

/-- The commands of a pass, one after the other. -/
theorem leads_commands (hstart : Standing start.builder start.tree)
    (h : Settled start lines [] none site) :
    Leads (commands lines) site (fun _ => Settled start lines (newcomers lines) none)
      (Broken start lines) := by
  -- What is left of the lines tells which of them are done.
  refine (leads_forM (fun rest s => ∃ done, done ++ rest = lines ∧
    Settled start lines (newcomers done) none s) ?_ ⟨[], rfl, h⟩).mono ?_
  · rintro line rest s ⟨done, hdone, hs⟩
    have hsplit : done ++ [line] ++ rest = lines := by simpa using hdone
    refine Leads.onLine ((leads_perform hstart ⟨rest, hsplit⟩ hs).mono fun _ s' hs' => ?_) line
    exact ⟨done ++ [line], hsplit, hs'⟩
  · rintro _ s ⟨done, hdone, hs⟩
    rw [List.append_nil] at hdone
    rwa [hdone] at hs

/-- Where some commands have succeeded, the pass is between two commands. -/
theorem settled_of_commands (hstart : Standing start.builder start.tree)
    (h : commands lines (siteAfter reset start) = .ok () site) :
    Settled start lines (newcomers lines) none site :=
  (leads_commands hstart ⟨.start, fun e he => by cases he⟩).of_ok h

/-- The elements that are still held back after all commands find their places. -/
theorem leads_dockAll (hstart : Standing start.builder start.tree)
    (h : Settled start lines (newcomers lines) none site) :
    Leads dockAll site (fun _ site' => Reached start lines ⟨site', [], newcomers lines⟩)
      (Broken start lines) := by
  -- Out of the books, the elements wait in hand: what is left of the list is what waits.
  have hjot := h.reached.step (.jot { site.builder with held := [] } rfl rfl)
  refine leads_get_bind (leads_remember_bind ((leads_forM (fun rest s =>
    Reached start lines ⟨s, rest, newcomers lines⟩ ∧ Stage.Clear ⟨s, rest, newcomers lines⟩)
    (fun e rest s hs => ?_) ⟨hjot, h.clear_stage⟩).mono fun _ s hs => hs.1))
  obtain ⟨hreached, hclear⟩ := hs
  have hsound := hreached.sound hstart
  refine Leads.onLine (leads_resolve_bind hreached.broken fun p hp => ?_) e.origin
  -- All commands are done, so an owner need not wait for a popup any longer.
  have hfit : Fit start lines ⟨s, e :: rest, newcomers lines⟩ e p :=
    ⟨List.mem_cons_self, hsound.bears_of_resolve? hp, .inr ⟨rfl, hclear⟩⟩
  refine leads_append hsound.descends.anchored (hsound.loose_of_waiting hfit.mem)
    (fun hopen => ⟨?_, fun e' he' hawaits => ?_⟩) ⟨_, hreached, .place e p hfit, rfl⟩
  · exact hreached.step (.place [] rest e p rfl hfit (by simp) hopen)
  · exact Site.resolveParent?_eq_none (hsound.staysUnresolved_attach hfit.mem hopen)
      (hclear e' (List.mem_cons_of_mem _ he') hawaits)

/-- The late attributes leave all nodes in their places. -/
theorem leads_performAllLate (h : Reached start lines ⟨site, [], news⟩)
    (hlate : ∀ line ∈ site.builder.late, line.isLate) :
    Leads performAllLate site (fun _ site' => Reached start lines ⟨site', [], news⟩)
      (Broken start lines) := by
  have hjot := h.step (.jot { site.builder with late := [] } rfl rfl)
  refine leads_get_bind (leads_remember_bind ((leads_forM (fun rest s =>
    (∀ line ∈ rest, line.isLate) ∧ Reached start lines ⟨s, [], news⟩)
    (fun line rest s hs => ?_) ⟨hlate, hjot⟩).mono fun _ s hs => hs.2))
  obtain ⟨hall, hreached⟩ := hs
  have hline := hall line List.mem_cons_self
  have hrest : ∀ l ∈ rest, l.isLate := fun l hl => hall l (List.mem_cons_of_mem _ hl)
  refine Leads.onLine ?_ line
  unfold performLate
  unfold Line.isLate at hline
  cases hc : line.command with
  | set id key value =>
    simp only [hc] at hline
    -- The key of texts is no late one, so no node is created.
    have hkey : key ≠ textKey := by
      rintro rfl
      revert hline
      decide
    exact (leads_setKey_of_ne key value hkey hreached).mono fun _ s' hs' => ⟨hrest, hs'.1⟩
  | window id => simp [hc] at hline
  | create id tag word => simp [hc] at hline
  | remove id => simp [hc] at hline

/-- **A pass leads to a stage at which nothing waits and all newcomers are there**, or to a fault at
some stage. -/
theorem leads_pass (start : Site) (hstart : Standing start.builder start.tree)
    (lines : List Line) :
    Leads (pass lines) start
      (fun _ site => ∃ s, Reached start lines s ∧ s.waiting = [] ∧ s.news = newcomers lines ∧
        site.host = s.site.host ∧ site.builder.window = s.site.builder.window)
      (Broken start lines) := by
  have hground : Leads (groundwork lines) start (fun _ site =>
      Reached start lines ⟨site, [], newcomers lines⟩ ∧ ∀ line ∈ site.builder.late, line.isLate)
      (Broken start lines) := by
    have hstages : Leads (groundwork lines) start
        (fun _ site => Reached start lines ⟨site, [], newcomers lines⟩) (Broken start lines) :=
      leads_remember_bind (Leads.bind
        (leads_commands hstart ⟨.start, fun e he => by cases he⟩)
        fun _ s hs => leads_dockAll hstart hs)
    unfold Leads at hstages ⊢
    cases hg : groundwork lines start with
    | error fault s => simpa only [hg] using hstages
    | ok u s =>
      simp only [hg] at hstages
      refine ⟨hstages, fun line hline => ?_⟩
      -- What was put aside are the late lines of the reply.
      rw [late_of_groundwork hg] at hline
      exact (List.mem_filter.mp hline).2
  have hpass : Leads (groundwork lines >>= fun _ => finish) start
      (fun _ site => ∃ s, Reached start lines s ∧ s.waiting = [] ∧ s.news = newcomers lines ∧
        site.host = s.site.host ∧ site.builder.window = s.site.builder.window)
      (Broken start lines) := by
    apply Leads.bind hground
    intro _ site hsite
    apply Leads.bind (leads_performAllLate hsite.1 hsite.2)
    intro _ site' hreached
    exact leads_remember ⟨_, hreached, rfl, rfl, rfl, rfl⟩
  unfold Leads at hpass ⊢
  rwa [pass_eq]

end Passes

/-! ## §2 Runs -/

/-- **Every run ends at a stage of its pass**, with the host as it is there or with an edit that was
refused.  Without a fault nothing waits at that stage, and all newcomers are there. -/
theorem Builder.run_stage {builder : Builder} {host : Host} (reply : Reply)
    (hstart : Standing builder host.tree) :
    ∃ s, Reached ⟨builder, host⟩ reply.lines s ∧
      (builder.run host reply).2.1.window = s.site.builder.window ∧
      Slip ⟨builder, host⟩ reply.lines s (builder.run host reply).2.2 ∧
      ((builder.run host reply).1 = .ok () → s.waiting = [] ∧ s.news = newcomers reply.lines ∧
        (builder.run host reply).2.2 = s.site.host) := by
  have hpass := leads_pass ⟨builder, host⟩ hstart reply.lines
  unfold Build.Leads at hpass
  unfold Builder.run
  cases hp : Build.pass reply.lines ⟨builder, host⟩ with
  | ok u site =>
    simp only [hp] at hpass
    obtain ⟨s, hreached, hwaiting, hnews, hhost, hwindow⟩ := hpass
    have hstill : Slip ⟨builder, host⟩ reply.lines s site.host := by
      rw [hhost]
      exact .still
    exact ⟨s, hreached, hwindow, hstill, fun _ => ⟨hwaiting, hnews, hhost⟩⟩
  | error fault site =>
    simp only [hp] at hpass
    obtain ⟨s, hreached, hslip, hwindow⟩ := hpass
    exact ⟨s, hreached, hwindow, hslip, fun hok => by cases hok⟩

/-- A fault leaves a tree that the next pass can start from. -/
theorem Slip.standing {start : Site} {lines : List Line} {s : Stage} {host : Host}
    (h : Slip start lines s host) (hsound : Sound start s) :
    Standing s.site.builder host.tree := by
  cases h with
  | still => exact ⟨hsound.descends.anchored, hsound.bare⟩
  | refused call hcall => exact ⟨hsound.descends.anchored, hsound.bare⟩
  | place e parent hfit => exact ⟨hsound.descends.anchored, hsound.bare⟩
  | enter owner popup hentry => exact ⟨hsound.descends.anchored, hsound.bare⟩
  | text id content parent hnews =>
    exact ⟨hsound.descends.anchored.push_text content,
      fun hw => (Tree.children_push ..).trans (hsound.bare hw)⟩

/-- The states that passes lead to, with or without faults, from a new builder and a new tree.  What
the host refuses may change from one pass to the next. -/
inductive Reachable : Builder → Tree → Prop where
  | new : Reachable Builder.new Tree.new
  | run {builder : Builder} {host : Host} (h : Reachable builder host.tree) (reply : Reply) :
      Reachable (builder.run host reply).2.1 (builder.run host reply).2.2.tree

/-- **Between two passes the tree is anchored, and bare until its root has a name.** -/
theorem Reachable.standing {builder : Builder} {tree : Tree} (h : Reachable builder tree) :
    Standing builder tree := by
  induction h with
  | new => exact ⟨Tree.anchored_new, fun _ => rfl⟩
  | @run builder host h reply ih =>
    -- The run ends at a stage, and every stage is sound.
    obtain ⟨s, hreached, hwindow, hslip, -⟩ := Builder.run_stage reply ih
    have hstanding := hslip.standing (hreached.sound ih)
    exact ⟨hstanding.anchored, fun hw => hstanding.bare (hwindow ▸ hw)⟩

/-! ## §3 Faults -/

namespace Build

theorem faultsOfBuilding_perform (line : Line) : FaultsOfBuilding (perform line) := by
  cases hlate : line.isLate with
  | true =>
    intro site fault s hs
    rw [perform_of_isLate hlate] at hs
    cases hs
  | false => exact (regular_perform hlate).faults

theorem faultsOfBuilding_performAllLate : FaultsOfBuilding performAllLate := by
  apply faultsOfBuilding_get_bind
  intro site
  apply (faultsOfBuilding_remember _).bind
  intro _
  exact faultsOfBuilding_forM fun line _ => ((regular_performLate line).onLine line).faults

theorem faultsOfBuilding_pass (lines : List Line) : FaultsOfBuilding (pass lines) := by
  apply (faultsOfBuilding_remember _).bind
  intro _
  apply (faultsOfBuilding_forM fun line _ => (faultsOfBuilding_perform line).onLine line).bind
  intro _
  apply regular_dockAll.faults.bind
  intro _
  exact faultsOfBuilding_performAllLate.bind fun _ => faultsOfBuilding_remember _

end Build

/-- **A run fails only because an id denotes no node or because the host refuses an edit.** -/
theorem Builder.isOfBuilding_of_run {builder : Builder} {host : Host} {reply : Reply}
    {fault : Fault} (h : (builder.run host reply).1 = .error fault) : fault.IsOfBuilding := by
  unfold Builder.run at h
  cases hpass : Build.pass reply.lines ⟨builder, host⟩ with
  | ok u site =>
    rw [hpass] at h
    cases h
  | error fault' site =>
    rw [hpass] at h
    cases h
    exact Build.faultsOfBuilding_pass reply.lines _ _ _ hpass

end RemoteUi
