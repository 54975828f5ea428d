import RemoteUi.Proofs.Build.Books
import RemoteUi.Proofs.Build.Passes

/-!
# Faults of a run

A run ends with the first task that faults, and the fault names the line of the task, however far
from that line it arises.  What comes after the task has no say in the outcome: after a faulting line
it does not matter which lines follow, and after a faulting docking it does not matter which late
lines there are.  A fault leaves the books of the builder as they were at that moment; the next run
does not read them.

* §1 faults at a line and in the docking;
* §2 the theorem.
-/

namespace RemoteUi

open RemoteUi.Wire

open Build

/-! ## §1 Where a fault arises -/

section Places

variable {builder : Builder} {host : Host} {reply : Reply} {s s' : Site} {fault : Fault}

/-- **A fault at a line ends the run there**, whatever lines follow. -/
theorem Builder.run_of_line {before after : List Line} {line : Line}
    (hlines : reply.lines = before ++ line :: after)
    (hbefore : commands before ⟨builder.rested, host⟩ = .ok () s)
    (hline : perform line s = .error fault s') :
    builder.run host reply = (.error (.command line fault), s'.builder, s'.host) := by
  have hproceed : proceed reply.lines ⟨builder.rested, host⟩ = .error (.command line fault) s' := by
    rw [hlines]
    exact bind_of_error (commands_eq_error hbefore hline)
  rw [run_eq_proceed, hproceed]

/-- A docking that faults lets no late line be taken up. -/
theorem Build.TakesUp.not_late_of_dock {lines : List Line} {site : Site} {held : Held}
    (h : TakesUp lines site (.dock held) s) (hs : (Task.dock held).run s = .error fault s')
    (line : Line) (s₁ : Site) : ¬ TakesUp lines site (.late line) s₁ := by
  intro hlate
  obtain ⟨s₂, hcommands, -, hcomes⟩ := h.of_dock
  obtain ⟨s₃, s₄, hcommands', hdock, -⟩ := hlate.of_late
  obtain rfl : s₂ = s₃ := by
    rw [hcommands] at hcommands'
    cases hcommands'
    rfl
  rw [dockAll_eq_error hcomes hs] at hdock
  cases hdock

/-- All that comes before the late lines of a pass. -/
theorem Build.groundwork_of_dock {lines : List Line} {held : Held}
    (h : TakesUp lines ⟨builder.rested, host⟩ (.dock held) s)
    (hs : dock held s = .error fault s') :
    groundwork lines ⟨builder, host⟩ = .error fault s' := by
  obtain ⟨s₁, hcommands, -, hcomes⟩ := h.of_dock
  have hdock : dockAll s₁ = .error fault s' := dockAll_eq_error hcomes hs
  rw [groundwork_apply, bind_of_ok hcommands, hdock]

/-- **A fault in the docking ends the run there**, whatever late lines there are. -/
theorem Builder.run_of_dock {held : Held} {other : Reply}
    (h : TakesUp reply.lines ⟨builder.rested, host⟩ (.dock held) s)
    (hs : dock held s = .error fault s')
    (hother : other.lines.filter (!·.isLate) = reply.lines.filter (!·.isLate)) :
    (builder.run host other).1 = .error fault ∧ (builder.run host other).2.2 = s'.host := by
  have hreply := groundwork_of_dock h hs
  have hone := groundwork_eq reply.lines ⟨builder, host⟩
  have htwo := groundwork_eq other.lines ⟨builder, host⟩
  rw [hother] at htwo
  -- Both replies fault as the one without late lines does.
  cases hearly : groundwork (reply.lines.filter (!·.isLate)) ⟨builder, host⟩ with
  | ok u s₁ =>
    simp only [hearly, hreply] at hone
    cases hone
  | error fault' s₁ =>
    simp only [hearly] at hone htwo
    obtain ⟨late, hone⟩ := hone
    obtain ⟨late', htwo⟩ := htwo
    rw [hreply] at hone
    cases hone
    rw [run_of_groundwork htwo]
    exact ⟨rfl, rfl⟩

/-- **The line of a task that a run takes up is a line of the reply.** -/
theorem Build.TakesUp.line_mem {lines : List Line} {task : Task}
    (h : TakesUp lines ⟨builder.rested, host⟩ task s) : task.line ∈ lines := by
  cases task with
  | command line =>
    obtain ⟨before, after, hlines, -⟩ := h.of_command
    simp [Task.line, hlines]
  | dock held =>
    obtain ⟨s₁, hcommands, hmem, -⟩ := h.of_dock
    exact (produced_of_commands rfl hcommands held hmem).mem
  | late line =>
    obtain ⟨s₁, s₂, hcommands, hdock, hmem⟩ := h.of_late
    have hground : groundwork lines ⟨builder, host⟩ = .ok () s₂ := by
      rw [groundwork_apply, bind_of_ok hcommands, hdock]
    -- What was put aside are late lines of the reply.
    rw [late_of_groundwork hground] at hmem
    exact (List.mem_filter.mp hmem).1

end Places

/-! ## §2 Faults and what they leave -/

/-- How a run of a reply faults, and what it leaves to the next run. -/
structure FaultsInOrder (builder : Builder) (host : Host) (reply : Reply) : Prop where
  /-- A fault arises because an id denotes no node or the host refuses an edit, and it names a line
  of the reply. -/
  named : ∀ fault, (builder.run host reply).1 = .error fault →
    fault.IsOfBuilding ∧ ∃ line ∈ reply.lines, fault.line? = some line
  /-- It arises at a line, in the docking, or at a late line. -/
  arises : ∀ fault, (builder.run host reply).1 = .error fault →
    (∃ before line after s cause, reply.lines = before ++ line :: after ∧
      commands before ⟨builder.rested, host⟩ = .ok () s ∧
      faultOf? (perform line s) = some cause ∧ fault = .command line cause) ∨
    (∃ held s, TakesUp reply.lines ⟨builder.rested, host⟩ (.dock held) s ∧
      faultOf? (dock held s) = some fault) ∨
    (∃ line s cause, TakesUp reply.lines ⟨builder.rested, host⟩ (.late line) s ∧
      faultOf? (performLate line s) = some cause ∧ fault = .command line cause)
  /-- A line that faults is named, and every reply that begins like this one, up to that line, has
  the same run. -/
  line : ∀ before line after s cause, reply.lines = before ++ line :: after →
    commands before ⟨builder.rested, host⟩ = .ok () s → faultOf? (perform line s) = some cause →
    (builder.run host reply).1 = .error (.command line cause) ∧
    ∀ other : Reply, before ++ [line] <+: other.lines →
      builder.run host other = builder.run host reply
  /-- A docking that faults names the line that created the element.  No late line is taken up, and
  every reply with the same other lines faults in the same way and leaves the same host. -/
  docking : ∀ held s fault, TakesUp reply.lines ⟨builder.rested, host⟩ (.dock held) s →
    faultOf? (dock held s) = some fault →
    (builder.run host reply).1 = .error fault ∧ fault.line? = some held.origin ∧
    Produced reply.lines ⟨builder.rested, host⟩ held ∧
    (∀ line s₁, ¬ TakesUp reply.lines ⟨builder.rested, host⟩ (.late line) s₁) ∧
    ∀ other : Reply, other.lines.filter (!·.isLate) = reply.lines.filter (!·.isLate) →
      (builder.run host other).1 = (builder.run host reply).1 ∧
      (builder.run host other).2.2 = (builder.run host reply).2.2
  /-- The next run is that of any builder that knows the window by the same id. -/
  next : ∀ other : Builder, other.window = (builder.run host reply).2.1.window →
    ∀ (host' : Host) (reply' : Reply),
      (builder.run host reply).2.1.run host' reply' = other.run host' reply'

theorem exists_of_faultOf? {α : Type} {step : Build α} {s : Site} {fault : Fault}
    (h : faultOf? (step s) = some fault) : ∃ s', step s = .error fault s' := by
  cases hs : step s with
  | ok a s' => simp [hs, faultOf?] at h
  | error fault' s' =>
    simp only [hs, faultOf?, Option.some.injEq] at h
    exact ⟨s', by rw [h]⟩

/-- An annotated step faults with the annotated fault. -/
theorem Build.exists_of_onLine {line : Line} {step : Build Unit} {s s' : Site} {fault : Fault}
    (h : onLine line step s = .error fault s') :
    ∃ cause, faultOf? (step s) = some cause ∧ fault = .command line cause := by
  cases hs : step s with
  | ok a s₁ => simp [onLine, hs] at h
  | error cause s₁ =>
    simp only [onLine, hs, EStateM.Result.error.injEq] at h
    exact ⟨cause, rfl, h.1.symm⟩

/-- **Every run faults in order**: at the first task that faults, in the name of that task's line,
and with nothing after it; and whatever a run leaves in the books, the next one begins without it. -/
theorem Builder.run_faultsInOrder (builder : Builder) (host : Host) (reply : Reply) :
    FaultsInOrder builder host reply where
  named fault h := by
    obtain ⟨task, s, s', htask, hs⟩ := exists_takesUp h
    exact ⟨isOfBuilding_of_run h, task.line, htask.line_mem, Task.line?_of_run hs⟩
  arises fault h := by
    obtain ⟨task, s, s', htask, hs⟩ := exists_takesUp h
    cases task with
    | command line =>
      obtain ⟨cause, hcause, rfl⟩ := exists_of_onLine hs
      obtain ⟨before, after, hlines, hbefore⟩ := htask.of_command
      exact .inl ⟨before, line, after, s, cause, hlines, hbefore, hcause, rfl⟩
    | dock held =>
      refine .inr (.inl ⟨held, s, htask, ?_⟩)
      change dock held s = .error fault s' at hs
      rw [hs]
      rfl
    | late line =>
      obtain ⟨cause, hcause, rfl⟩ := exists_of_onLine hs
      exact .inr (.inr ⟨line, s, cause, htask, hcause, rfl⟩)
  line before line after s cause hlines hbefore hcause := by
    obtain ⟨s', hline⟩ := exists_of_faultOf? hcause
    have hrun := run_of_line hlines hbefore hline
    refine ⟨by rw [hrun], ?_⟩
    rintro other ⟨rest, hrest⟩
    have hother : other.lines = before ++ line :: rest := by
      rw [← hrest]
      simp
    rw [run_of_line hother hbefore hline, hrun]
  docking held s fault htask hfault := by
    obtain ⟨s', hs⟩ := exists_of_faultOf? hfault
    have hrun := run_of_takesUp htask hs
    obtain ⟨s₁, hcommands, hmem, -⟩ := htask.of_dock
    have hline : fault.line? = some (Task.dock held).line := Task.line?_of_run hs
    refine ⟨by rw [hrun], hline,
      produced_of_commands rfl hcommands held hmem, htask.not_late_of_dock hs, ?_⟩
    intro other hother
    obtain ⟨hresult, hhost⟩ := run_of_dock htask hs hother
    rw [hrun]
    exact ⟨hresult, hhost⟩
  next other hwindow host' reply' := run_congr hwindow.symm host' reply'

/-- An element whose parent never comes: the fault names the line that created it, and the attribute
of another line is not set. -/
example : (Builder.new.run { tree := .new } ⟨"", [(Command.window "w").toLine,
    (Command.set "w" "selectedIndex" (some "1")).toLine,
    (Command.create "b" "box" (some "lost")).toLine]⟩).1 =
      .error (.command (Command.create "b" "box" (some "lost")).toLine (.unresolved "lost")) := by
  rfl

end RemoteUi
