import RemoteUi.Proofs.Build.LateOrder
import RemoteUi.Proofs.Build.Writes

/-!
# The tasks of a pass

A pass takes up its tasks one after the other: the lines of the reply, the elements that are still
held back after the last line, and the late lines.  A task is taken up only if all those before it
succeeded, and the first one that faults is the last one.  So what is said about one task, at any
site at which a pass may take it up, is said about every pass.

* §1 tasks in a row;
* §2 what is left of a pass;
* §3 the tasks that a pass takes up, and its fault;
* §4 runs.
-/

namespace RemoteUi

open RemoteUi.Wire

namespace Build

/-! ## §1 Tasks in a row -/

/-- Tasks that are carried out one after the other come to one of them at a site. -/
inductive ComesTo : List Task → Site → Task → Site → Prop where
  | first (task : Task) (rest : List Task) (site : Site) : ComesTo (task :: rest) site task site
  | next {task other : Task} {rest : List Task} {site s' s : Site}
      (hother : other.run site = .ok () s') (h : ComesTo rest s' task s) :
      ComesTo (other :: rest) site task s

section Tasks

variable {tasks more : List Task} {task : Task} {site s s' : Site} {fault : Fault}

theorem ComesTo.mem (h : ComesTo tasks site task s) : task ∈ tasks := by
  induction h with
  | first task rest site => exact List.mem_cons_self
  | next hother h ih => exact List.mem_cons_of_mem _ ih

/-- Before a task is come to, all those before it have succeeded. -/
theorem ComesTo.split (h : ComesTo tasks site task s) : ∃ before after,
    tasks = before ++ task :: after ∧ before.forM Task.run site = .ok () s := by
  induction h with
  | first task rest site => exact ⟨[], rest, rfl, rfl⟩
  | @next task other rest site s' s hother h ih =>
    obtain ⟨before, after, rfl, hbefore⟩ := ih
    exact ⟨other :: before, after, rfl, (bind_of_ok hother).trans hbefore⟩

/-- **The first task that faults is the last one.** -/
theorem ComesTo.error (h : ComesTo tasks site task s) (hs : task.run s = .error fault s') :
    tasks.forM Task.run site = .error fault s' := by
  induction h with
  | first task rest site =>
    show (task.run >>= fun _ => rest.forM Task.run) site = .error fault s'
    simp only [bind, EStateM.bind, hs]
  | @next task other rest site s₁ s hother h ih => exact (bind_of_ok hother).trans (ih hs)

/-- A fault is the fault of a task that was come to. -/
theorem exists_comesTo (h : tasks.forM Task.run site = .error fault s') :
    ∃ task s, ComesTo tasks site task s ∧ task.run s = .error fault s' := by
  induction tasks generalizing site with
  | nil => cases h
  | cons other rest ih =>
    change (other.run >>= fun _ => rest.forM Task.run) site = .error fault s' at h
    cases hother : other.run site with
    | ok u s₁ =>
      rw [bind_of_ok hother] at h
      obtain ⟨task, s, hcomes, hs⟩ := ih h
      exact ⟨task, s, .next hother hcomes, hs⟩
    | error fault' s₁ =>
      simp only [bind, EStateM.bind, hother] at h
      cases h
      exact ⟨other, site, .first .., hother⟩

end Tasks

/-! ## §2 What is left of a pass -/

/-- What a pass does from some of its lines on. -/
def proceed (lines : List Line) : Build Unit := do
  commands lines
  dockAll
  finish

theorem pass_eq_proceed (lines : List Line) (site : Site) :
    pass lines site = proceed lines ⟨site.builder.rested, site.host⟩ := by
  simp only [pass, proceed, commands, finish]
  rfl

/-- What comes before the late lines begins from rest, too. -/
theorem groundwork_apply (lines : List Line) (site : Site) : groundwork lines site =
    (commands lines >>= fun _ => dockAll) ⟨site.builder.rested, site.host⟩ := rfl

section Proceed

variable {before after lines : List Line} {site s s' : Site} {fault : Fault}

/-- What a step faults with, so does all that begins with it. -/
theorem bind_of_error {α β : Type} {step : Build α} {next : α → Build β}
    (h : step site = .error fault s) : (step >>= next) site = .error fault s := by
  simp only [bind, EStateM.bind, h]

/-- A step that succeeds and what follows it fault as what follows it does. -/
theorem bind_eq_error_iff {α β : Type} {step : Build α} {next : α → Build β} :
    (step >>= next) site = .error fault s ↔ step site = .error fault s ∨
      ∃ a s', step site = .ok a s' ∧ next a s' = .error fault s := by
  simp only [bind, EStateM.bind]
  cases step site with
  | ok a s' => simp
  | error fault' s' => simp

theorem commands_append (before after : List Line) (site : Site) :
    commands (before ++ after) site = (commands before >>= fun _ => commands after) site :=
  congrFun List.forM_append site

theorem commands_concat {line : Line} (h : commands before site = .ok () s)
    (hline : perform line s = .ok () s') : commands (before ++ [line]) site = .ok () s' := by
  have honLine : onLine line (perform line) s = .ok () s' := by
    simp only [onLine, hline]
  rw [commands_append, bind_of_ok h]
  exact bind_of_ok honLine

/-- **When some lines have succeeded, what is left is what follows them.** -/
theorem proceed_append (h : commands before site = .ok () s) :
    proceed (before ++ after) site = proceed after s := by
  have hcommands : commands (before ++ after) site = commands after s := by
    rw [commands_append, bind_of_ok h]
  simp only [proceed, bind, EStateM.bind, hcommands]

/-- A line that faults is the last one, whatever lines there are after it. -/
theorem commands_eq_error {line : Line} (h : commands before site = .ok () s)
    (hline : perform line s = .error fault s') :
    commands (before ++ line :: after) site = .error (.command line fault) s' := by
  have honLine : onLine line (perform line) s = .error (.command line fault) s' := by
    simp only [onLine, hline]
  rw [commands_append, bind_of_ok h]
  exact bind_of_error honLine

end Proceed

/-! ## §3 The tasks of a pass -/

/-- The elements that are held back are taken in hand, to be docked one after the other. -/
def unhold (site : Site) : Site := { site with builder := { site.builder with held := [] } }

/-- What is left of a pass, with `lines` to come, takes a task up at a site. -/
inductive TakesUp (lines : List Line) (site : Site) (task : Task) (s : Site) : Prop where
  | command (h : ComesTo (lines.map .command) site task s)
  | dock {s₁ : Site} (hcommands : commands lines site = .ok () s₁)
      (h : ComesTo (s₁.builder.held.map .dock) (unhold s₁) task s)
  | late {s₁ s₂ : Site} (hcommands : commands lines site = .ok () s₁)
      (hdock : dockAll s₁ = .ok () s₂)
      (h : ComesTo (s₂.builder.late.map .late) (s₂.withLate []) task s)

section TakesUp

variable {before after lines : List Line} {site s s' : Site} {task : Task} {fault : Fault}

/-- A line is taken up after those before it. -/
theorem TakesUp.of_command {line : Line} (h : TakesUp lines site (.command line) s) :
    ∃ before after, lines = before ++ line :: after ∧ commands before site = .ok () s := by
  cases h with
  | command h =>
    obtain ⟨tasks, more, hsplit, hbefore⟩ := h.split
    obtain ⟨before, rest, rfl, rfl, hrest⟩ := List.map_eq_append_iff.mp hsplit
    obtain ⟨line', after, rfl, hline, -⟩ := List.map_eq_cons_iff.mp hrest
    cases hline
    rw [← commands_eq_tasks] at hbefore
    exact ⟨before, after, rfl, hbefore⟩
  | dock hcommands h =>
    obtain ⟨held, -, heq⟩ := List.mem_map.mp h.mem
    cases heq
  | late hcommands hdock h =>
    obtain ⟨line', -, heq⟩ := List.mem_map.mp h.mem
    cases heq

/-- A docking is taken up after all lines. -/
theorem TakesUp.of_dock {held : Held}
    (h : TakesUp lines site (.dock held) s) : ∃ s₁, commands lines site = .ok () s₁ ∧
      held ∈ s₁.builder.held ∧
      ComesTo (s₁.builder.held.map .dock) (unhold s₁) (.dock held) s := by
  cases h with
  | command h =>
    obtain ⟨line, -, hline⟩ := List.mem_map.mp h.mem
    cases hline
  | @dock s₁ hcommands h =>
    obtain ⟨held', hmem, heq⟩ := List.mem_map.mp h.mem
    cases heq
    exact ⟨s₁, hcommands, hmem, h⟩
  | late hcommands hdock h =>
    obtain ⟨line, -, hline⟩ := List.mem_map.mp h.mem
    cases hline

/-- **A late line is taken up only when everything else has succeeded.** -/
theorem TakesUp.of_late {line : Line}
    (h : TakesUp lines site (.late line) s) : ∃ s₁ s₂, commands lines site = .ok () s₁ ∧
      dockAll s₁ = .ok () s₂ ∧ line ∈ s₂.builder.late := by
  cases h with
  | command h =>
    obtain ⟨line, -, hline⟩ := List.mem_map.mp h.mem
    cases hline
  | dock hcommands h =>
    obtain ⟨line, -, hline⟩ := List.mem_map.mp h.mem
    cases hline
  | @late s₁ s₂ hcommands hdock h =>
    obtain ⟨line', hmem, heq⟩ := List.mem_map.mp h.mem
    cases heq
    exact ⟨s₁, s₂, hcommands, hdock, hmem⟩

/-- A docking that faults is the last one. -/
theorem dockAll_eq_error (h : ComesTo (site.builder.held.map .dock) (unhold site) task s)
    (hs : task.run s = .error fault s') : dockAll site = .error fault s' := by
  rw [dockAll_eq_tasks]
  exact h.error hs

/-- **The fault of a task that is taken up is the fault of the pass.** -/
theorem TakesUp.error (h : TakesUp lines site task s) (hs : task.run s = .error fault s') :
    proceed lines site = .error fault s' := by
  unfold proceed
  cases h with
  | command h =>
    apply bind_of_error
    rw [commands_eq_tasks]
    exact h.error hs
  | dock hcommands h =>
    rw [bind_of_ok hcommands]
    exact bind_of_error (dockAll_eq_error h hs)
  | late hcommands hdock h =>
    rw [bind_of_ok hcommands, bind_of_ok hdock]
    apply bind_of_error
    rw [performAllLate_eq_tasks]
    exact h.error hs

/-- **The fault of a pass is the fault of a task that it took up.** -/
theorem exists_takesUp (h : proceed lines site = .error fault s') :
    ∃ task s, TakesUp lines site task s ∧ task.run s = .error fault s' := by
  unfold proceed at h
  rcases bind_eq_error_iff.mp h with h | ⟨⟨⟩, s₁, hcommands, h⟩
  · rw [commands_eq_tasks] at h
    obtain ⟨task, s, hcomes, hs⟩ := exists_comesTo h
    exact ⟨task, s, .command hcomes, hs⟩
  rcases bind_eq_error_iff.mp h with h | ⟨⟨⟩, s₂, hdock, h⟩
  · rw [dockAll_eq_tasks] at h
    obtain ⟨task, s, hcomes, hs⟩ := exists_comesTo h
    exact ⟨task, s, .dock hcommands hcomes, hs⟩
  rcases bind_eq_error_iff.mp h with h | ⟨⟨⟩, s₃, -, h⟩
  · rw [performAllLate_eq_tasks] at h
    obtain ⟨task, s, hcomes, hs⟩ := exists_comesTo h
    exact ⟨task, s, .late hcommands hdock hcomes, hs⟩
  · cases h

/-- The line that a task is carried out for; for a docking the line that created the element. -/
def Task.line : Task → Line
  | .command line => line
  | .dock held => held.origin
  | .late line => line

/-- A fault of a task names the line of the task. -/
theorem Task.line?_of_run (h : task.run s = .error fault s') : fault.line? = some task.line := by
  have honLine : ∀ {line : Line} {step : Build Unit}, onLine line step s = .error fault s' →
      fault.line? = some line := by
    intro line step hstep
    simp only [onLine] at hstep
    cases hs : step s with
    | ok a s₁ => simp only [hs] at hstep; cases hstep
    | error fault' s₁ =>
      simp only [hs] at hstep
      cases hstep
      rfl
  cases task with
  | command line => exact honLine h
  | dock held => exact honLine h
  | late line => exact honLine h

end TakesUp

end Build

/-! ## §4 Runs -/

section Runs

open Build

variable {builder : Builder} {host : Host} {reply : Reply} {task : Task} {s s' : Site}
  {fault : Fault}

/-- **A run goes through the lines of the reply from rest**, whatever the builder still remembers of
an earlier pass. -/
theorem Builder.run_eq_proceed (builder : Builder) (host : Host) (reply : Reply) :
    builder.run host reply =
      match proceed reply.lines ⟨builder.rested, host⟩ with
      | .ok _ site => (.ok (), site.builder, site.host)
      | .error fault site => (.error fault, site.builder, site.host) := by
  have hpass := pass_eq_proceed reply.lines ⟨builder, host⟩
  unfold Builder.run
  cases h : proceed reply.lines ⟨builder.rested, host⟩ <;> simp only [hpass, h]

/-- **A run reads of the books only the window's id.** -/
theorem Builder.run_congr {one other : Builder} (h : one.window = other.window) (host : Host)
    (reply : Reply) : one.run host reply = other.run host reply := by
  have hrested : one.rested = other.rested := by
    unfold rested
    rw [h]
  rw [run_eq_proceed, run_eq_proceed, hrested]

/-- A fault before the late lines is the fault of the run. -/
theorem Builder.run_of_groundwork (h : groundwork reply.lines ⟨builder, host⟩ = .error fault s) :
    builder.run host reply = (.error fault, s.builder, s.host) := by
  rw [Builder.run, pass_eq, bind_of_error h]

/-- A task that faults ends the run. -/
theorem Builder.run_of_takesUp (h : TakesUp reply.lines ⟨builder.rested, host⟩ task s)
    (hs : task.run s = .error fault s') :
    builder.run host reply = (.error fault, s'.builder, s'.host) := by
  rw [run_eq_proceed, h.error hs]

/-- When some lines have succeeded, the run is what is left of it. -/
theorem Builder.run_of_commands {before after : List Line}
    (hlines : reply.lines = before ++ after)
    (h : commands before ⟨builder.rested, host⟩ = .ok () s) : builder.run host reply =
      match proceed after s with
      | .ok _ site => (.ok (), site.builder, site.host)
      | .error fault site => (.error fault, site.builder, site.host) := by
  rw [run_eq_proceed, hlines, proceed_append h]

/-- A run that faults took up a task that did. -/
theorem Builder.exists_takesUp (h : (builder.run host reply).1 = .error fault) :
    ∃ task s s', TakesUp reply.lines ⟨builder.rested, host⟩ task s ∧
      task.run s = .error fault s' := by
  rw [run_eq_proceed] at h
  cases hp : proceed reply.lines ⟨builder.rested, host⟩ with
  | ok u site =>
    rw [hp] at h
    cases h
  | error fault' site =>
    rw [hp] at h
    cases h
    obtain ⟨task, s, htask, hs⟩ := Build.exists_takesUp hp
    exact ⟨task, s, site, htask, hs⟩

end Runs

end RemoteUi
