import RemoteUi.Proofs.Build.Steps

/-!
# Late attributes come last

Where the late attributes stand among the other commands of a reply does not matter: they are put
aside until everything else is done, and a fault before that keeps all of them from being done.

* §1 late lines;
* §2 a pass over any lines is the pass over the other lines, followed by the late ones;
* §3 the deeds of a pass: each task that it took up, with what the task asked of the host;
* §4 the order of the deeds.
-/

namespace RemoteUi

open RemoteUi.Wire

/-! ## §1 Late lines -/

/-- Whether a line sets a late attribute. -/
def Wire.Line.isLate (line : Line) : Bool :=
  match line.command with
  | .set _ key _ => lateKeys.contains key
  | _ => false

namespace Build

/-- **Only a late line is put aside.** -/
theorem regular_perform {line : Line} (h : line.isLate = false) : Regular (perform line) := by
  unfold perform
  unfold Line.isLate at h
  cases hc : line.command with
  | window id => exact regular_nameWindow id
  | create id tag parent => exact regular_create line id tag parent
  | remove id => exact regular_remove id
  | set id key value =>
    simp only [hc] at h
    simp only [h, Bool.false_eq_true, if_false]
    exact regular_setKey id key value

/-- A late line is put aside, and nothing else happens. -/
theorem perform_of_isLate {line : Line} (h : line.isLate = true) (site : Site) :
    perform line site = .ok () (site.withLate (site.builder.late ++ [line])) := by
  unfold perform
  unfold Line.isLate at h
  cases hc : line.command with
  | set id key value =>
    simp only [hc] at h
    simp only [h, if_true]
    rfl
  | window id => simp [hc] at h
  | create id tag parent => simp [hc] at h
  | remove id => simp [hc] at h

/-- A line that sets a key and is not late does so at once. -/
theorem perform_of_set {line : Line} {id : NodeId} {key : String} {value : Option String}
    (hc : line.command = .set id key value) (h : line.isLate = false) :
    perform line = setKey id key value := by
  simp only [Line.isLate, hc] at h
  simp only [perform, hc, h, Bool.false_eq_true, if_false]

theorem performLate_of_set {line : Line} {id : NodeId} {key : String} {value : Option String}
    (hc : line.command = .set id key value) : performLate line = setKey id key value := by
  simp only [performLate, hc]

theorem regular_performLate (line : Line) : Regular (performLate line) := by
  unfold performLate
  cases line.command with
  | set id key value => exact regular_setKey id key value
  | window id => exact regular_pure ()
  | create id tag parent => exact regular_pure ()
  | remove id => exact regular_pure ()

/-! ## §2 The pass without the late lines -/

/-- Carries out the lines of a reply in their order. -/
def commands (lines : List Line) : Build Unit :=
  lines.forM fun line => onLine line (perform line)

/-- All of a pass that comes before the late attributes. -/
def groundwork (lines : List Line) : Build Unit := do
  reset
  commands lines
  dockAll

/-- The late attributes, and the end of the pass. -/
def finish : Build Unit := do
  performAllLate
  remember fun builder => { builder with created := ∅ }

theorem pass_eq (lines : List Line) (site : Site) :
    pass lines site = (groundwork lines >>= fun _ => finish) site := by
  simp only [pass, groundwork, finish, commands, bind_assoc]

/-- **The late lines of a reply add up to what is put aside, and have no other effect on the
commands.**  After a fault it is not told how many of them were put aside. -/
theorem commands_eq (lines : List Line) (site : Site) :
    match commands (lines.filter (!·.isLate)) site with
    | .ok u s =>
      commands lines site = .ok u (s.withLate (site.builder.late ++ lines.filter (·.isLate)))
    | .error fault s => ∃ late, commands lines site = .error fault (s.withLate late) := by
  induction lines generalizing site with
  | nil => simp [commands, pure, EStateM.pure]
  | cons line rest ih =>
    have hcons : commands (line :: rest) site =
        (onLine line (perform line) >>= fun _ => commands rest) site := rfl
    cases hlate : line.isLate with
    | true =>
      -- The line is put aside, and the rest goes on from there.
      have hregular : Regular (commands (rest.filter (!·.isLate))) :=
        regular_forM fun l hl =>
          (regular_perform (by simpa using (List.mem_filter.mp hl).2)).onLine l
      have hgo : commands (line :: rest) site =
          commands rest (site.withLate (site.builder.late ++ [line])) := by
        rw [hcons]
        simp only [bind, EStateM.bind, onLine, perform_of_isLate hlate]
      have hrest := ih (site.withLate (site.builder.late ++ [line]))
      rw [hregular.ignoresLate] at hrest
      rw [List.filter_cons_of_neg (by simp [hlate]), List.filter_cons_of_pos hlate, hgo]
      cases h : commands (rest.filter (!·.isLate)) site with
      | ok u s =>
        simp only [h, outcomeWithLate] at hrest
        simpa [Site.withLate, List.append_assoc] using hrest
      | error fault s =>
        simp only [h, outcomeWithLate] at hrest
        simpa using hrest
    | false =>
      -- The line is carried out on both sides, and leaves what is put aside as it was.
      have hfilter : commands ((line :: rest).filter (!·.isLate)) site =
          (onLine line (perform line) >>= fun _ => commands (rest.filter (!·.isLate))) site := by
        rw [List.filter_cons_of_pos (by simp [hlate])]
        rfl
      rw [hfilter, hcons, List.filter_cons_of_neg (by simp [hlate])]
      simp only [bind, EStateM.bind]
      cases h : onLine line (perform line) site with
      | ok u s =>
        rw [← ((regular_perform hlate).onLine line).late_eq h]
        exact ih s
      | error fault s => exact ⟨s.builder.late, rfl⟩

/-- The same holds of all that comes before the late attributes. -/
theorem groundwork_eq (lines : List Line) (site : Site) :
    match groundwork (lines.filter (!·.isLate)) site with
    | .ok u s => groundwork lines site = .ok u (s.withLate (lines.filter (·.isLate)))
    | .error fault s => ∃ late, groundwork lines site = .error fault (s.withLate late) := by
  have hreset : ∀ lines, groundwork lines site =
      (commands lines >>= fun _ => dockAll) (siteAfter reset site) := fun _ => rfl
  have hcommands := commands_eq lines (siteAfter reset site)
  rw [hreset, hreset]
  simp only [bind, EStateM.bind]
  cases h : commands (lines.filter (!·.isLate)) (siteAfter reset site) with
  | ok u s =>
    simp only [h] at hcommands
    -- The docking does not look at what is put aside.
    have hdock := regular_dockAll.ignoresLate s (lines.filter (·.isLate))
    have hnone : (siteAfter reset site).builder.late = [] := rfl
    simp only [hcommands, hnone, List.nil_append, hdock]
    cases dockAll s with
    | ok u s => rfl
    | error fault s => exact ⟨_, rfl⟩
  | error fault s =>
    simp only [h] at hcommands
    obtain ⟨late, hcommands⟩ := hcommands
    exact ⟨late, by rw [hcommands]⟩

/-- **Two replies with the same late lines and the same other lines have the same outcome**, but for
the lines that are still put aside after a fault. -/
theorem pass_congr {a b : List Line}
    (hearly : a.filter (!·.isLate) = b.filter (!·.isLate))
    (hlate : a.filter (·.isLate) = b.filter (·.isLate)) (site : Site) :
    outcomeWithLate [] (pass a site) = outcomeWithLate [] (pass b site) := by
  have ha := groundwork_eq a site
  have hb := groundwork_eq b site
  rw [pass_eq, pass_eq]
  simp only [bind, EStateM.bind]
  -- Both passes begin as the one over the lines that are not late, which are the same.
  rw [hearly, hlate] at ha
  cases h : groundwork (b.filter (!·.isLate)) site with
  | ok u s =>
    simp only [h] at ha hb
    rw [ha, hb]
  | error fault s =>
    -- They may differ in what they had put aside when the fault came.
    simp only [h] at ha hb
    obtain ⟨la, ha⟩ := ha
    obtain ⟨lb, hb⟩ := hb
    rw [ha, hb]
    rfl

/-! ## §3 Deeds -/

/-- What a pass takes up, one after the other. -/
inductive Task where
  /-- A line in the order of the reply. -/
  | command (line : Line)
  /-- An element that is still held back after the last line. -/
  | dock (held : Held)
  /-- A late line, after everything else. -/
  | late (line : Line)

/-- Carries out a task. -/
def Task.run : Task → Build Unit
  | .command line => onLine line (perform line)
  | .dock held => Build.dock held
  | .late line => onLine line (performLate line)

/-- A task that was taken up, with the edits that it asked of the host and its fault, if it had one. -/
structure Deed where
  task : Task
  calls : List Call
  fault : Option Fault

/-- The fault of an outcome. -/
def faultOf? {α : Type} : EStateM.Result Fault Site α → Option Fault
  | .ok _ _ => none
  | .error fault _ => some fault

/-- What becomes of a task that is taken up at a site. -/
def Task.deed (task : Task) (site : Site) : Deed where
  task := task
  calls := (siteAfter task.run site).host.journal.drop site.host.journal.length
  fault := faultOf? (task.run site)

/-- The deeds of tasks that are taken up one after the other, until one faults. -/
def chronicle : List Task → Site → List Deed
  | [], _ => []
  | task :: rest, site =>
    task.deed site ::
      match task.run site with
      | .ok _ s => chronicle rest s
      | .error _ _ => []

/-- The deeds of a step and, unless it faults, those of what comes after it. -/
def andThen (step : Build Unit) (site : Site) (ds : List Deed) (next : Site → List Deed) :
    List Deed :=
  match step site with
  | .ok _ s => ds ++ next s
  | .error _ _ => ds

/-- The deeds of the commands. -/
def commandDeeds (lines : List Line) (site : Site) : List Deed :=
  chronicle (lines.map .command) site

/-- The deeds of the docking after the last command. -/
def dockDeeds (site : Site) : List Deed :=
  chronicle (site.builder.held.map .dock) { site with builder := { site.builder with held := [] } }

/-- The deeds of the late attributes. -/
def lateDeeds (site : Site) : List Deed :=
  chronicle (site.builder.late.map .late) (site.withLate [])

/-- The deeds of a pass. -/
def deeds (lines : List Line) (site : Site) : List Deed :=
  let start := siteAfter reset site
  andThen (commands lines) start (commandDeeds lines start) fun s =>
    andThen dockAll s (dockDeeds s) lateDeeds

/-- A task only asks the host for edits. -/
theorem Task.moves_run (task : Task) (site : Site) :
    site.host.Moves (siteAfter task.run site).host := by
  cases task with
  | command line =>
    cases hlate : line.isLate with
    | true =>
      rw [siteAfter_of_ok (s := site.withLate (site.builder.late ++ [line])) (a := ())]
      · exact .refl
      · simp only [Task.run, onLine, perform_of_isLate hlate]
    | false => exact ((regular_perform hlate).onLine line).moves site
  | dock held => exact (regular_dock held).moves site
  | late line =>
    exact ((regular_performLate line).onLine line).moves site

/-- The calls of a deed are what it adds to the journal. -/
theorem Task.journal_run (task : Task) (site : Site) :
    (siteAfter task.run site).host.journal = site.host.journal ++ (task.deed site).calls := by
  obtain ⟨calls, hcalls⟩ := (task.moves_run site).journal
  simp only [Task.deed, ← hcalls, List.drop_left]

/-- A late line that is put aside asks nothing of the host. -/
theorem Task.calls_deed_of_isLate {line : Line} (h : line.isLate = true) (site : Site) :
    ((Task.command line).deed site).calls = [] := by
  have hsite : siteAfter (Task.command line).run site =
      site.withLate (site.builder.late ++ [line]) :=
    siteAfter_of_ok (a := ()) (by simp only [Task.run, onLine, perform_of_isLate h])
  simp only [Task.deed, hsite, Site.withLate, List.drop_length]

/-- Deeds account for a step: for everything that it asked of the host, and for its fault. -/
structure Accounts (step : Build Unit) (site : Site) (ds : List Deed) : Prop where
  journal : (siteAfter step site).host.journal = site.host.journal ++ ds.flatMap (·.calls)
  fault : faultOf? (step site) = ds.findSome? (·.fault)

namespace Accounts

variable {step next : Build Unit} {site : Site} {ds : List Deed}

/-- The deeds of a step, followed by those of the next, account for the two. -/
theorem bind (after : Site → List Deed) (h : Accounts step site ds)
    (hnext : ∀ s, step site = .ok () s → Accounts next s (after s)) :
    Accounts (step >>= fun _ => next) site (andThen step site ds after) := by
  have hbind : (step >>= fun _ => next) site = EStateM.bind step (fun _ => next) site := rfl
  obtain ⟨hj, hf⟩ := h
  unfold andThen
  cases hs : step site with
  | ok u s =>
    -- The second step adds to the journal that the first one leaves.
    obtain ⟨hj', hf'⟩ := hnext s hs
    simp only [EStateM.bind, hs] at hbind
    rw [siteAfter_of_ok hs] at hj
    rw [hs] at hf
    refine ⟨?_, ?_⟩
    · have hafter : siteAfter (step >>= fun _ => next) site = siteAfter next s := by
        simp only [siteAfter, hbind]
      rw [hafter, hj', hj, List.flatMap_append, List.append_assoc]
    · rw [hbind, hf', List.findSome?_append, ← hf]
      rfl
  | error fault s =>
    -- The second step is not taken.
    simp only [EStateM.bind, hs] at hbind
    refine ⟨?_, ?_⟩
    · rw [siteAfter_of_error hbind, ← siteAfter_of_error hs]
      exact hj
    · rw [hbind, ← hf, hs]

/-- A step that changes only what the builder remembers is accounted for by no deeds. -/
theorem remember (f : Builder → Builder) (site : Site) : Accounts (Build.remember f) site [] :=
  ⟨(List.append_nil _).symm, rfl⟩

end Accounts

theorem accounts_deed (task : Task) (site : Site) : Accounts task.run site [task.deed site] where
  journal := by simpa using task.journal_run site
  fault := by
    simp only [List.findSome?_cons, List.findSome?_nil, Task.deed]
    cases faultOf? (task.run site) <;> rfl

/-- **A chronicle accounts for a run of tasks.** -/
theorem accounts_chronicle (tasks : List Task) (site : Site) :
    Accounts (tasks.forM Task.run) site (chronicle tasks site) := by
  induction tasks generalizing site with
  | nil => exact ⟨(List.append_nil _).symm, rfl⟩
  | cons task rest ih =>
    have hcons : chronicle (task :: rest) site =
        andThen task.run site [task.deed site] (chronicle rest) := by
      unfold chronicle andThen
      cases task.run site <;> rfl
    rw [hcons]
    exact Accounts.bind (chronicle rest) (accounts_deed task site) fun s _ => ih s

/-- A chronicle goes through the tasks in their order. -/
theorem chronicle_prefix (tasks : List Task) (site : Site) :
    (chronicle tasks site).map (·.task) <+: tasks := by
  induction tasks generalizing site with
  | nil => exact List.nil_prefix
  | cons task rest ih =>
    rw [chronicle, List.map_cons]
    refine List.cons_prefix_cons.mpr ⟨rfl, ?_⟩
    cases task.run site with
    | ok u s => exact ih s
    | error fault s => exact List.nil_prefix

theorem mem_chronicle {tasks : List Task} {site : Site} {d : Deed}
    (h : d ∈ chronicle tasks site) : d.task ∈ tasks ∧ ∃ s, d = d.task.deed s := by
  induction tasks generalizing site with
  | nil => simp [chronicle] at h
  | cons task rest ih =>
    rw [chronicle, List.mem_cons] at h
    rcases h with rfl | h
    · exact ⟨List.mem_cons_self, site, rfl⟩
    · cases hs : task.run site with
      | ok u s =>
        simp only [hs] at h
        exact ⟨List.mem_cons_of_mem _ (ih h).1, (ih h).2⟩
      | error fault s => simp [hs] at h

/-! ## §4 The order of the deeds -/

/-- The three parts of a pass as runs of tasks. -/
theorem commands_eq_tasks (lines : List Line) :
    commands lines = (lines.map Task.command).forM Task.run :=
  (List.forM_map (l := lines) (g := Task.command) (f := Task.run)).symm

theorem dockAll_eq_tasks (site : Site) : dockAll site =
    (site.builder.held.map Task.dock).forM Task.run
      { site with builder := { site.builder with held := [] } } :=
  congrFun (List.forM_map (l := site.builder.held) (g := Task.dock) (f := Task.run)).symm _

theorem performAllLate_eq_tasks (site : Site) : performAllLate site =
    (site.builder.late.map Task.late).forM Task.run (site.withLate []) :=
  congrFun (List.forM_map (l := site.builder.late) (g := Task.late) (f := Task.run)).symm _

/-- Before the late attributes come, the late lines have all been put aside in their order. -/
theorem late_of_groundwork {lines : List Line} {site s : Site} {u : Unit}
    (h : groundwork lines site = .ok u s) : s.builder.late = lines.filter (·.isLate) := by
  have heq := groundwork_eq lines site
  cases hg : groundwork (lines.filter (!·.isLate)) site with
  | ok u' s' =>
    simp only [hg, h] at heq
    injection heq with _ heq
    rw [heq]
    rfl
  | error fault s' =>
    simp only [hg, h] at heq
    obtain ⟨late, heq⟩ := heq
    cases heq

/-- The deeds of a pass in two parts: those up to the last docking, and those of late lines. -/
structure LateLast (lines : List Line) (early late : List Deed) : Prop where
  /-- No late line is carried out in the first part. -/
  early_task : ∀ d ∈ early, ∀ line, d.task ≠ .late line
  /-- A late line that is come across in the first part asks nothing of the host. -/
  early_calls : ∀ d ∈ early, ∀ line, d.task = .command line → line.isLate = true → d.calls = []
  /-- The second part is made of the late lines in their order, as far as it goes. -/
  late_task : late.map (·.task) <+: (lines.filter (·.isLate)).map Task.late
  /-- After a fault in the first part there is no second part. -/
  late_eq_nil : (∃ d ∈ early, d.fault.isSome) → late = []

/-- What a chronicle contributes to the first part, if it is not one of late lines. -/
theorem early_of_chronicle (tasks : List Task) (h : ∀ task ∈ tasks, ∀ line, task ≠ .late line)
    (site : Site) : ∀ d ∈ chronicle tasks site, (∀ line, d.task ≠ .late line) ∧
      ∀ line, d.task = .command line → line.isLate = true → d.calls = [] := by
  intro d hd
  obtain ⟨htask, s, hs⟩ := mem_chronicle hd
  refine ⟨h _ htask, fun line hline hlate => ?_⟩
  rw [hs, hline]
  exact Task.calls_deed_of_isLate hlate s

/-! ### The parts of a pass -/

theorem accounts_commandDeeds (lines : List Line) (site : Site) :
    Accounts (commands lines) site (commandDeeds lines site) := by
  rw [commands_eq_tasks]
  exact accounts_chronicle _ _

theorem accounts_dockDeeds (site : Site) : Accounts dockAll site (dockDeeds site) := by
  obtain ⟨hj, hf⟩ := accounts_chronicle (site.builder.held.map .dock)
    { site with builder := { site.builder with held := [] } }
  unfold siteAfter at hj
  rw [← dockAll_eq_tasks] at hj hf
  exact ⟨hj, hf⟩

theorem accounts_lateDeeds (site : Site) : Accounts performAllLate site (lateDeeds site) := by
  obtain ⟨hj, hf⟩ := accounts_chronicle (site.builder.late.map .late) (site.withLate [])
  unfold siteAfter at hj
  rw [← performAllLate_eq_tasks] at hj hf
  exact ⟨hj, hf⟩

/-- **The deeds of a pass account for all of it.** -/
theorem accounts_deeds (lines : List Line) (site : Site) :
    Accounts (pass lines) site (deeds lines site) := by
  have hpass : pass lines = Build.reset >>= fun _ => commands lines >>= fun _ => dockAll >>= fun _ =>
      performAllLate >>= fun _ => Build.remember fun builder => { builder with created := ∅ } := rfl
  -- From the end of the pass to its beginning, each part before what comes after it.
  have hlate : ∀ s, Accounts (performAllLate >>= fun _ =>
      Build.remember fun builder => { builder with created := ∅ }) s (lateDeeds s) := by
    intro s
    have h := Accounts.bind (fun _ => []) (accounts_lateDeeds s) fun s _ =>
      .remember (fun builder => { builder with created := ∅ }) s
    have hnone : andThen performAllLate s (lateDeeds s) (fun _ => []) = lateDeeds s := by
      unfold andThen
      cases performAllLate s <;> simp
    rwa [hnone] at h
  rw [hpass]
  have hdock : ∀ s, Accounts (dockAll >>= fun _ => performAllLate >>= fun _ =>
      Build.remember fun builder => { builder with created := ∅ }) s
      (andThen dockAll s (dockDeeds s) lateDeeds) :=
    fun s => Accounts.bind lateDeeds (accounts_dockDeeds s) fun s _ => hlate s
  exact Accounts.bind _ (Accounts.remember _ site) fun start _ =>
    Accounts.bind _ (accounts_commandDeeds lines start) fun s _ => hdock s

/-- Without a fault in a step, none of its deeds has one. -/
theorem Accounts.fault_eq_none {step : Build Unit} {site s : Site} {ds : List Deed}
    (h : Accounts step site ds) (hs : step site = .ok () s) : ∀ d ∈ ds, d.fault = none := by
  have hf := h.fault
  rw [hs] at hf
  exact List.findSome?_eq_none_iff.mp hf.symm

/-- **The deeds of late lines come last.** -/
theorem lateLast_deeds (lines : List Line) (site : Site) :
    ∃ early late, deeds lines site = early ++ late ∧ LateLast lines early late := by
  have hcommand := early_of_chronicle (lines.map .command) (by simp)
    (siteAfter reset site)
  unfold deeds
  cases hc : commands lines (siteAfter reset site) with
  | error fault s =>
    -- A command faults: neither the docking nor a late attribute is come to.
    refine ⟨commandDeeds lines (siteAfter reset site), [], ?_, fun d hd => (hcommand d hd).1,
      fun d hd => (hcommand d hd).2, List.nil_prefix, fun _ => rfl⟩
    simp only [andThen, hc, List.append_nil]
  | ok u s =>
    have hdock := early_of_chronicle (s.builder.held.map .dock) (by simp)
      { s with builder := { s.builder with held := [] } }
    -- The first part are the deeds of the commands and of the docking.
    have hearly : ∀ d ∈ commandDeeds lines (siteAfter reset site) ++ dockDeeds s,
        (∀ line, d.task ≠ .late line) ∧
          ∀ line, d.task = .command line → line.isLate = true → d.calls = [] := by
      intro d hd
      rcases List.mem_append.mp hd with hd | hd
      · exact hcommand d hd
      · exact hdock d hd
    cases hd : dockAll s with
    | error fault s' =>
      -- The docking faults: no late attribute is come to.
      refine ⟨commandDeeds lines (siteAfter reset site) ++ dockDeeds s, [], ?_,
        fun d hd => (hearly d hd).1, fun d hd => (hearly d hd).2, List.nil_prefix, fun _ => rfl⟩
      simp only [andThen, hc, hd, List.append_nil]
    | ok u' s' =>
      refine ⟨commandDeeds lines (siteAfter reset site) ++ dockDeeds s, lateDeeds s', ?_,
        fun d hd => (hearly d hd).1, fun d hd => (hearly d hd).2, ?_, ?_⟩
      · simp only [andThen, hc, hd, List.append_assoc]
      · have hground : groundwork lines site = .ok u' s' := by
          have hgroundwork : groundwork lines site =
              (commands lines >>= fun _ => dockAll) (siteAfter reset site) := rfl
          rw [hgroundwork]
          simp only [bind, EStateM.bind, hc, hd]
        rw [← late_of_groundwork hground]
        exact chronicle_prefix _ _
      · -- There is a second part only after two steps without a fault.
        rintro ⟨d, hmem, hfault⟩
        have hnone : d.fault = none := by
          rcases List.mem_append.mp hmem with hmem | hmem
          · exact (accounts_commandDeeds lines _).fault_eq_none hc d hmem
          · exact (accounts_dockDeeds s).fault_eq_none hd d hmem
        simp [hnone] at hfault

end Build

/-! ## §5 Runs -/

/-- The fault of a run. -/
def Builder.faultOfRun? (builder : Builder) (host : Host) (reply : Reply) : Option Fault :=
  match (builder.run host reply).1 with
  | .ok _ => none
  | .error fault => some fault

open Build in
/-- **Late attributes come after all structure, whatever their place in the reply.**  Two replies
with the same late lines and the same other lines run to the same result, on the same host with the
same journal, under the same window.  The deeds of the run, which account for its journal and its
fault, fall into two parts: in the first no late line asks for anything, and the second is made of
the late lines in their order and is missing after a fault in the first. -/
theorem run_late_last (builder : Builder) (host : Host) (a b : Reply)
    (hearly : a.lines.filter (!·.isLate) = b.lines.filter (!·.isLate))
    (hlate : a.lines.filter (·.isLate) = b.lines.filter (·.isLate)) :
    ((builder.run host a).1 = (builder.run host b).1 ∧
      (builder.run host a).2.2 = (builder.run host b).2.2 ∧
      (builder.run host a).2.1.window = (builder.run host b).2.1.window) ∧
    ∃ early late,
      deeds a.lines ⟨builder, host⟩ = early ++ late ∧
      (builder.run host a).2.2.journal =
        host.journal ++ (early.flatMap (·.calls) ++ late.flatMap (·.calls)) ∧
      builder.faultOfRun? host a = (early ++ late).findSome? (·.fault) ∧
      LateLast a.lines early late := by
  refine ⟨?_, ?_⟩
  · have hcongr := pass_congr hearly hlate ⟨builder, host⟩
    unfold Builder.run
    cases ha : pass a.lines ⟨builder, host⟩ <;> cases hb : pass b.lines ⟨builder, host⟩ <;>
      simp only [ha, hb, outcomeWithLate, EStateM.Result.ok.injEq, EStateM.Result.error.injEq,
        reduceCtorEq] at hcongr
    · next sa _ sb =>
      have hhost := congrArg Site.host hcongr.2
      have hwindow := congrArg (·.builder.window) hcongr.2
      exact ⟨rfl, hhost, hwindow⟩
    · next fa sa fb sb =>
      have hhost := congrArg Site.host hcongr.2
      have hwindow := congrArg (·.builder.window) hcongr.2
      exact ⟨congrArg Except.error hcongr.1, hhost, hwindow⟩
  · obtain ⟨early, late, hdeeds, hlast⟩ := lateLast_deeds a.lines ⟨builder, host⟩
    obtain ⟨hjournal, hfault⟩ := accounts_deeds a.lines ⟨builder, host⟩
    rw [hdeeds] at hjournal hfault
    refine ⟨early, late, hdeeds, ?_, ?_, hlast⟩
    · rw [← List.flatMap_append, ← hjournal]
      unfold Builder.run siteAfter
      cases pass a.lines ⟨builder, host⟩ <;> rfl
    · rw [← hfault]
      unfold Builder.faultOfRun? Builder.run
      cases pass a.lines ⟨builder, host⟩ <;> rfl

/-- A selection that is set before its list exists, and after. -/
theorem run_late_last_selection :
    ∃ a b : Reply,
      a.lines = [(Command.set "l" "selectedIndex" (some "1")).toLine,
        (Command.window "w").toLine, (Command.create "l" "listbox" (some "w")).toLine] ∧
      b.lines = [(Command.window "w").toLine, (Command.create "l" "listbox" (some "w")).toLine,
        (Command.set "l" "selectedIndex" (some "1")).toLine] ∧
      (Builder.new.run { tree := .new } a).2.2.journal =
        (Builder.new.run { tree := .new } b).2.2.journal := by
  refine ⟨⟨"", _⟩, ⟨"", _⟩, rfl, rfl, congrArg Host.journal ?_⟩
  refine (run_late_last Builder.new { tree := .new } _ _ ?_ ?_).1.2.1
  · decide
  · decide

end RemoteUi
