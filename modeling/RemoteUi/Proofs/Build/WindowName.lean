import RemoteUi.Proofs.Build.Removal
import RemoteUi.Proofs.Build.Requests

/-!
# The name of the root

The first line that names the root settles its name, for the rest of the run and for all runs to
come.  From then on the id means the root, even where an element bears the same one: what is set
under the id is set at the root, what is created below it is put below the root at once, and nothing
waits for it.

* §1 lines that name the root;
* §2 steps at a root with a name;
* §3 the lines that a run carries out;
* §4 runs, one after the other.
-/

namespace RemoteUi

open RemoteUi.Wire

/-! ## §1 Names -/

/-- The name that a line gives to the root. -/
def Wire.Line.rootName? (line : Line) : Option NodeId :=
  match line.command with
  | .window id => some id
  | _ => none

/-- The first name that is given to the root. -/
def firstRootName? (lines : List Line) : Option NodeId := lines.findSome? (·.rootName?)

theorem firstRootName?_append (lines more : List Line) :
    firstRootName? (lines ++ more) = (firstRootName? lines).or (firstRootName? more) :=
  List.findSome?_append

/-! ## §2 Steps at a root with a name -/

namespace Build

/-- The builder knows the root by a name, if by any, and no element waits for it. -/
structure GoesBy (name : Option NodeId) (site : Site) : Prop where
  window : site.builder.window = name
  clear : ∀ e ∈ site.builder.held, e.awaits = .parent → ∀ id, name = some id → e.parent ≠ some id

section GoesBy

variable {name : Option NodeId} {site : Site}

theorem GoesBy.of_builder_eq {s : Site} (h : GoesBy name site)
    (hbuilder : s.builder = site.builder) : GoesBy name s where
  window := by rw [hbuilder, h.window]
  clear := by
    rw [hbuilder]
    exact h.clear

theorem KeepsBooks.goesBy {α : Type} {step : Build α} (hstep : KeepsBooks step)
    (h : GoesBy name site) :
    Leads step site (fun _ => GoesBy name) (·.builder.window = name) :=
  (hstep.leads site).imp (fun _ _ => h.of_builder_eq) fun _ hs => (h.of_builder_eq hs).window

/-- Those that wait for the name stop waiting when they are attached. -/
theorem leads_attachNamed {id : NodeId} (hwindow : site.builder.window = name)
    (hclear : ∀ e ∈ site.builder.held, e.awaits = .parent →
      ∀ id', name = some id' → e.parent = some id' → id' = id) (parent : Handle) :
    Leads (attachWaiting id parent) site (fun _ => GoesBy name) (·.builder.window = name) := by
  refine (books_attachWaiting id parent).imp (fun _ s hs => ⟨?_, ?_⟩) ?_
  · rw [hs, hwindow]
  · intro e he hawaits id' hname hparent
    rw [hs] at he
    obtain ⟨hmem, hkept⟩ := List.mem_filter.mp he
    obtain rfl := hclear e hmem hawaits id' hname hparent
    simp [Held.awaitsParent, hawaits, hparent] at hkept
  · rintro s ⟨held, hs⟩
    rw [hs, hwindow]

theorem GoesBy.attachWaiting (h : GoesBy name site) (id : NodeId) (parent : Handle) :
    Leads (attachWaiting id parent) site (fun _ => GoesBy name) (·.builder.window = name) :=
  leads_attachNamed h.window
    (fun e he hawaits id' hname hparent => absurd hparent (h.clear e he hawaits id' hname)) parent

/-- An element below the name is attached, so it is not held back. -/
theorem GoesBy.attachOrHold (h : GoesBy name site) (e : Held) :
    Leads (attachOrHold e) site (fun _ => GoesBy name) (·.builder.window = name) := by
  refine (books_attachOrHold e).imp ?_ fun s hs => by rw [hs, h.window]
  rintro _ s (hs | ⟨hresolve, hs⟩)
  · exact h.of_builder_eq hs
  · refine ⟨by rw [hs, h.window], fun e' he' hawaits id hname hparent => ?_⟩
    rw [hs] at he'
    rcases List.mem_append.mp he' with he' | he'
    · exact h.clear e' he' hawaits id hname hparent
    · obtain rfl := List.mem_singleton.mp he'
      have hparent : e.parent = some id := hparent
      simp [Site.resolveParent?, Site.resolve?, hparent, h.window, hname] at hresolve

theorem GoesBy.settle (h : GoesBy name site) (tag : String) (e : Held) :
    Leads (settle tag e) site (fun _ => GoesBy name) (·.builder.window = name) := by
  unfold Build.settle
  split
  · -- A popup is waited for, not a parent.
    refine leads_remember ⟨h.window, fun e' he' hawaits => ?_⟩
    rcases List.mem_append.mp he' with he' | he'
    · exact h.clear e' he' hawaits
    · obtain rfl := List.mem_singleton.mp he'
      cases hawaits
  · have howner : Leads (ownerOf tag e.parent) site (fun _ => GoesBy name)
        (·.builder.window = name) := by
      refine leads_ownerOf h ?_
      intro before owner after hheld _ _ _
      exact ⟨h.window, fun e' he' => h.clear e' (mem_of_mem_place hheld he')⟩
    refine howner.bind fun owner s hs => ?_
    cases owner with
    | none => exact hs.attachOrHold e
    | some owner =>
      exact ((keepsBooks_edit _).goesBy hs).bind fun _ s' hs' => hs'.attachOrHold owner

theorem GoesBy.bringForth (h : GoesBy name site) (id : NodeId) (vocabulary : Vocabulary)
    (tag : String) :
    Leads (bringForth id vocabulary tag) site (fun _ => GoesBy name) (·.builder.window = name) := by
  refine (books_bringForth id vocabulary tag).imp ?_ fun s hs => hs.trans h.window
  rintro _ s ⟨-, hs⟩
  refine ⟨by rw [hs, h.window], ?_⟩
  rw [hs]
  exact h.clear

theorem GoesBy.remove (h : GoesBy name site) (id : NodeId) :
    Leads (Build.remove id) site (fun _ => GoesBy name) (·.builder.window = name) := by
  refine (books_remove id).imp (fun _ s hs => ⟨?_, ?_⟩) fun s hs => ?_
  · rw [hs, h.window]
  · rw [hs]
    exact h.clear
  · rw [hs, h.window]

/-- The first name stays, and those that waited for it are attached. -/
theorem GoesBy.nameWindow (h : GoesBy name site) (id : NodeId) :
    Leads (nameWindow id) site (fun _ => GoesBy (name.or (some id)))
      (·.builder.window = name.or (some id)) := by
  apply leads_get_bind
  cases hname : name with
  | none =>
    simp only [h.window, hname, Option.none_or]
    refine leads_remember_bind (leads_attachNamed rfl ?_ _)
    intro e he hawaits id' heq _
    exact (Option.some.inj heq).symm
  | some window =>
    simp only [h.window, hname, Option.some_or]
    rw [hname] at h
    by_cases heq : window = id
    · simpa only [if_pos heq] using h.attachWaiting id Tree.root
    · simp only [if_neg heq]
      exact leads_pure h

/-- **A line gives the root its name if it has none, and leaves nothing waiting for the name.**  The
name is known even after a fault. -/
theorem GoesBy.perform (h : GoesBy name site) (line : Line) :
    Leads (perform line) site (fun _ => GoesBy (name.or line.rootName?))
      (·.builder.window = name.or line.rootName?) := by
  unfold Build.perform Line.rootName?
  cases line.command with
  | window id => exact h.nameWindow id
  | create id tag parent =>
    simp only [Option.or_none]
    refine (h.bringForth id _ _).bind fun node s hs => ?_
    exact (hs.settle _ _).bind fun _ s' hs' => hs'.attachWaiting id node
  | remove id =>
    simp only [Option.or_none]
    exact h.remove id
  | set id key value =>
    simp only [Option.or_none]
    split
    · exact leads_remember ⟨h.window, h.clear⟩
    · exact (keepsBooks_setKey id key value).goesBy h

end GoesBy

/-! ## §3 The lines that a run carries out -/

/-- The lines that are carried out one after the other, up to one that faults and with it. -/
def carriedOut (lines : List Line) (site : Site) : List Line :=
  (commandDeeds lines site).map (·.task.line)

section CarriedOut

variable {before after lines : List Line} {name : Option NodeId} {site s : Site} {task : Task}

theorem carriedOut_cons (line : Line) (rest : List Line) (site : Site) :
    carriedOut (line :: rest) site =
      line :: match (Task.command line).run site with
        | .ok _ s => carriedOut rest s
        | .error _ _ => [] := by
  simp only [carriedOut, commandDeeds, List.map_cons, chronicle, Task.deed, Task.line]
  cases (Task.command line).run site <;> rfl

/-- Lines that succeed are all carried out. -/
theorem carriedOut_append (h : commands before site = .ok () s) :
    carriedOut (before ++ after) site = before ++ carriedOut after s := by
  induction before generalizing site with
  | nil =>
    cases h
    rfl
  | cons line rest ih =>
    change ((Task.command line).run >>= fun _ => commands rest) site = .ok () s at h
    rw [List.cons_append, carriedOut_cons]
    cases hline : (Task.command line).run site with
    | ok u s₁ =>
      rw [bind_of_ok hline] at h
      exact congrArg (line :: ·) (ih h)
    | error fault s₁ =>
      rw [bind_of_error hline] at h
      cases h

theorem carriedOut_of_ok (h : commands lines site = .ok () s) : carriedOut lines site = lines := by
  have hall := @carriedOut_append lines [] site s h
  rw [List.append_nil] at hall
  exact hall.trans (List.append_nil lines)

/-- **The root goes by the name that it had, or else by the first one that is given to it.** -/
theorem GoesBy.commands (h : GoesBy name site) (lines : List Line) :
    Leads (commands lines) site (fun _ => GoesBy (name.or (firstRootName? lines)))
      (·.builder.window = name.or (firstRootName? (carriedOut lines site))) := by
  induction lines generalizing name site with
  | nil =>
    rw [firstRootName?, List.findSome?_nil, Option.or_none]
    exact leads_pure h
  | cons line rest ih =>
    have hfirst : ∀ more, name.or (firstRootName? (line :: more)) =
        (name.or line.rootName?).or (firstRootName? more) := by
      intro more
      rw [Option.or_assoc, ← List.singleton_append, firstRootName?_append]
      simp [firstRootName?]
    have hperform : Leads (Task.command line).run site (fun _ => GoesBy (name.or line.rootName?))
        (·.builder.window = name.or line.rootName?) := (h.perform line).onLine line
    have hcons : Build.commands (line :: rest) site =
        ((Task.command line).run >>= fun _ => Build.commands rest) site := rfl
    rw [hfirst, carriedOut_cons, hfirst, Leads, hcons]
    cases hline : (Task.command line).run site with
    | ok u s =>
      rw [bind_of_ok hline]
      exact ih (hperform.of_ok hline)
    | error fault s =>
      rw [bind_of_error hline]
      simpa [firstRootName?] using hperform.of_error hline

theorem GoesBy.dockAll (h : GoesBy name site) :
    Leads dockAll site (fun _ => GoesBy name) (·.builder.window = name) :=
  leads_get_bind (leads_remember_bind (KeepsBooks.goesBy
    (keepsBooks_forM fun held _ => keepsBooks_dock held) ⟨h.window, nofun⟩))

/-- After the lines, the name stays. -/
theorem GoesBy.rest (h : GoesBy name site) :
    Leads (Build.dockAll >>= fun _ => finish) site (fun _ => GoesBy name)
      (·.builder.window = name) := by
  refine h.dockAll.bind fun _ s hs => ?_
  have hlate : Leads performAllLate s (fun _ => GoesBy name) (·.builder.window = name) :=
    leads_get_bind (leads_remember_bind (KeepsBooks.goesBy
      (keepsBooks_forM fun line _ => (keepsBooks_performLate line).onLine line)
      ⟨hs.window, hs.clear⟩))
  exact hlate.bind fun _ s' hs' => leads_remember ⟨hs'.window, hs'.clear⟩

/-- A task that is come to after others that keep the books. -/
theorem ComesTo.goesBy {tasks : List Task} (h : ComesTo tasks site task s)
    (htasks : ∀ other ∈ tasks, KeepsBooks other.run) (hsite : GoesBy name site) :
    GoesBy name s := by
  obtain ⟨before, after, rfl, hbefore⟩ := h.split
  have hkeeps : KeepsBooks (before.forM Task.run) :=
    keepsBooks_forM fun other hother => htasks other (List.mem_append_left _ hother)
  exact (hkeeps.goesBy hsite).of_ok hbefore

/-- **Wherever a task is taken up, the root goes by the first name that was given to it so far.** -/
theorem TakesUp.goesBy (h : TakesUp lines site task s) (hsite : GoesBy name site) :
    ∃ before, before <+: carriedOut lines site ∧
      ((∀ line, task ≠ .command line) → before = lines) ∧
      GoesBy (name.or (firstRootName? before)) s := by
  cases h with
  | command h =>
    obtain ⟨line, -, rfl⟩ := List.mem_map.mp h.mem
    obtain ⟨before, after, rfl, hbefore⟩ := (TakesUp.command h).of_command
    refine ⟨before, ?_, fun hne => absurd rfl (hne line), (hsite.commands before).of_ok hbefore⟩
    rw [carriedOut_append hbefore]
    exact List.prefix_append ..
  | @dock s₁ hcommands h =>
    have hs₁ := (hsite.commands lines).of_ok hcommands
    rw [carriedOut_of_ok hcommands]
    refine ⟨lines, List.prefix_rfl, fun _ => rfl,
      h.goesBy (fun other hother => ?_) ⟨hs₁.window, nofun⟩⟩
    obtain ⟨held, -, rfl⟩ := List.mem_map.mp hother
    exact keepsBooks_dock held
  | @late s₁ s₂ hcommands hdock h =>
    have hs₂ := ((hsite.commands lines).of_ok hcommands).dockAll.of_ok hdock
    rw [carriedOut_of_ok hcommands]
    refine ⟨lines, List.prefix_rfl, fun _ => rfl,
      h.goesBy (fun other hother => ?_) ⟨hs₂.window, hs₂.clear⟩⟩
    obtain ⟨line, -, rfl⟩ := List.mem_map.mp hother
    exact (keepsBooks_performLate line).onLine line

/-- A name that the root has when a task is carried out stays, whether the task faults or not. -/
theorem GoesBy.run {id : NodeId} (h : GoesBy (some id) s) (task : Task) :
    (siteAfter task.run s).builder.window = some id := by
  have hkeeps : KeepsBooks task.run → (siteAfter task.run s).builder.window = some id :=
    fun hkeeps => by rw [hkeeps s, h.window]
  cases task with
  | command line =>
    have hperform := ((h.perform line).onLine line).imp (fun _ _ hs => hs.window) fun _ hs => hs
    exact hperform.siteAfter
  | dock held => exact hkeeps (keepsBooks_dock held)
  | late line => exact hkeeps ((keepsBooks_performLate line).onLine line)

/-- A line that names the root. -/
theorem leads_run_window {line : Line} {id : NodeId} (hc : line.command = .window id) (s : Site) :
    Leads (Task.command line).run s (fun _ => PutsBelow Tree.root s) (PutsBelow Tree.root s) := by
  have hperform : perform line = nameWindow id := by simp only [perform, hc]
  rw [Task.run, hperform]
  exact (leads_nameWindow_below id s).onLine line

/-- What is set under the name of the root is set at the root. -/
theorem Task.Sets.leads_run {id : NodeId} (h : task.Sets id)
    (hwindow : s.builder.window = some id) :
    Leads task.run s (fun _ => Asked (ActsOn Tree.root) s) (Asked (ActsOn Tree.root) s) := by
  have hresolve : s.resolve? id = some Tree.root := by
    rw [Site.resolve?, if_pos hwindow]
  obtain ⟨key, value, hrun⟩ := h.exists_run_eq
  rw [hrun]
  exact (leads_setKey_on hresolve key value).onLine task.line

/-- A line that creates an element below the name of the root. -/
theorem leads_run_create {line : Line} {id window : NodeId} {tag : String}
    (hc : line.command = .create id tag (some window)) (hwindow : s.builder.window = some window)
    (htag : (Vocabulary.resolve tag).2 ∉ ["menu", "menulist", "menupopup"]) :
    Leads (Task.command line).run s (fun _ => BroughtBelowRoot id (Vocabulary.resolve tag) s)
      fun _ => True := by
  have hperform : perform line = create line id tag (some window) := by simp only [perform, hc]
  rw [Task.run, hperform]
  exact (leads_create_belowRoot hwindow htag line id).onLine line

end CarriedOut

end Build

/-! ## §4 Runs -/

open Build

/-- The lines that a run carries out. -/
def Builder.carriedOut (builder : Builder) (host : Host) (reply : Reply) : List Line :=
  Build.carriedOut reply.lines ⟨builder.rested, host⟩

/-- A builder that began with nothing and has gone through runs, on whatever hosts and with or
without faults, together with all the lines that it has carried out. -/
inductive Builder.Ran : List Line → Builder → Prop where
  | new : Ran [] Builder.new
  | run {done : List Line} {builder : Builder} (h : Ran done builder) (host : Host)
      (reply : Reply) : Ran (done ++ builder.carriedOut host reply) (builder.run host reply).2.1

section Runs

variable {builder : Builder} {done : List Line}

/-- At rest, nothing waits. -/
theorem Builder.goesBy_rested (builder : Builder) (host : Host) :
    GoesBy builder.window ⟨builder.rested, host⟩ := ⟨rfl, nofun⟩

/-- **A run leaves the name that the root had, or else the first one that the run gave to it.** -/
theorem Builder.window_run (builder : Builder) (host : Host) (reply : Reply) :
    (builder.run host reply).2.1.window =
      builder.window.or (firstRootName? (builder.carriedOut host reply)) := by
  have hstart := builder.goesBy_rested host
  have hproceed : Leads (proceed reply.lines) ⟨builder.rested, host⟩
      (fun _ => GoesBy (builder.window.or (firstRootName? (builder.carriedOut host reply))))
      (·.builder.window = builder.window.or (firstRootName? (builder.carriedOut host reply))) := by
    refine Leads.bind ?_ fun _ s hs => GoesBy.rest hs
    have hcommands := hstart.commands reply.lines
    unfold Leads at hcommands ⊢
    cases h : commands reply.lines ⟨builder.rested, host⟩ with
    | ok u s =>
      -- Without a fault, all lines were carried out.
      rw [carriedOut, carriedOut_of_ok h]
      simpa only [h] using hcommands
    | error fault s =>
      simp only [h] at hcommands
      exact hcommands
  rw [run_eq_proceed]
  cases h : proceed reply.lines ⟨builder.rested, host⟩ with
  | ok u s => exact (hproceed.of_ok h).window
  | error fault s => exact hproceed.of_error h

/-- **After any runs, the root goes by the first name that a line gave to it.** -/
theorem Builder.Ran.window (h : Ran done builder) : builder.window = firstRootName? done := by
  induction h with
  | new => rfl
  | run h host reply ih => rw [window_run, ih, firstRootName?_append]

/-- What it means for a run that the root has one name for good.  Before the run, the lines `done`
were carried out. -/
structure NamesRootOnce (done : List Line) (builder : Builder) (host : Host) (reply : Reply) :
    Prop where
  /-- Between two commands, the root goes by the first name that a line gave to it, in this run or
  before it, and no element is held back to wait for that name as its parent. -/
  between : ∀ before after s, reply.lines = before ++ after →
    commands before ⟨builder.rested, host⟩ = .ok () s →
    s.builder.window = firstRootName? (done ++ before) ∧
    ∀ name, s.builder.window = some name → ∀ e ∈ s.builder.held, e.awaits = .parent →
      e.parent ≠ some name
  /-- So it does after all lines, in the docking and at the late lines. -/
  afterwards : ∀ task s, TakesUp reply.lines ⟨builder.rested, host⟩ task s →
    (∀ line, task ≠ .command line) → s.builder.window = firstRootName? (done ++ reply.lines)
  /-- A name that is known when a task is taken up is known after the task, and after the run,
  whether they fault or not. -/
  stays : ∀ task s, TakesUp reply.lines ⟨builder.rested, host⟩ task s → ∀ name,
    s.builder.window = some name → (siteAfter task.run s).builder.window = some name ∧
      (builder.run host reply).2.1.window = some name
  /-- A line that names the root only asks for elements to be put below it, and creates no node. -/
  naming : ∀ line s id, TakesUp reply.lines ⟨builder.rested, host⟩ (.command line) s →
    line.command = .window id → AllBelow Tree.root ((Task.command line).deed s).calls ∧
      (siteAfter (Task.command line).run s).tree.slots.size = s.tree.slots.size
  /-- Once there is a name, a line with another one does nothing at all. -/
  ignored : ∀ line s id name, TakesUp reply.lines ⟨builder.rested, host⟩ (.command line) s →
    line.command = .window id → s.builder.window = some name → name ≠ id →
    (Task.command line).run s = .ok () s
  /-- What is set under the name, early or late, is set at the root. -/
  sets : ∀ task s name, TakesUp reply.lines ⟨builder.rested, host⟩ task s → task.Sets name →
    s.builder.window = some name → ActsOn Tree.root (task.deed s).calls
  /-- What is created below the name without a fault is put below the root at once, unless it waits
  for a popup or is one. -/
  creates : ∀ line s s' id tag name, TakesUp reply.lines ⟨builder.rested, host⟩ (.command line) s →
    line.command = .create id tag (some name) →
    (Vocabulary.resolve tag).2 ∉ ["menu", "menulist", "menupopup"] →
    s.builder.window = some name → (Task.command line).run s = .ok () s' →
    BroughtBelowRoot id (Vocabulary.resolve tag) s s'

/-- **The root is named once and for all.** -/
theorem Builder.Ran.namesRootOnce (h : Ran done builder) :
    builder.window = firstRootName? done ∧
      ∀ (host : Host) (reply : Reply), NamesRootOnce done builder host reply := by
  refine ⟨h.window, fun host reply => ?_⟩
  have hstart := builder.goesBy_rested host
  refine { between := ?between, afterwards := ?afterwards, stays := ?stays, naming := ?naming,
           ignored := ?ignored, sets := ?sets, creates := ?creates }
  case between =>
    intro before after s hlines hbefore
    have hs := (hstart.commands before).of_ok hbefore
    refine ⟨?_, fun name hname e he hawaits => ?_⟩
    · rw [hs.window, h.window, firstRootName?_append]
    · exact hs.clear e he hawaits name (hs.window.symm.trans hname)
  case afterwards =>
    intro task s htask hne
    obtain ⟨before, -, hbefore, hs⟩ := htask.goesBy hstart
    rw [hs.window, hbefore hne, h.window, firstRootName?_append]
  case stays =>
    intro task s htask name hname
    obtain ⟨before, ⟨more, hmore⟩, -, hs⟩ := htask.goesBy hstart
    have hbefore := hs.window.symm.trans hname
    rw [hbefore] at hs
    refine ⟨hs.run task, ?_⟩
    have hcarried : builder.carriedOut host reply = before ++ more := hmore.symm
    rw [window_run, hcarried, firstRootName?_append, ← Option.or_assoc, hbefore, Option.some_or]
  case naming =>
    intro line s id _ hc
    have hrun := (leads_run_window hc s).siteAfter
    exact ⟨hrun.asked.of_run, hrun.size⟩
  case ignored =>
    intro line s id name _ hc hname hne
    simp only [Task.run, onLine, perform, hc, nameWindow_of_ne hname hne]
  case sets =>
    intro task s name _ hsets hname
    exact (hsets.leads_run hname).siteAfter.of_run
  case creates =>
    intro line s s' id tag name _ hc htag hname hrun
    exact (leads_run_create hc hname htag).of_ok hrun

/-- A label before its window, a second name for the root, and a box whose parent never comes, which
is a fault. -/
def lostBox : Reply :=
  ⟨"", [(Command.create "a" "label" (some "w")).toLine, (Command.window "w").toLine,
    (Command.window "v").toLine, (Command.create "b" "box" (some "lost")).toLine]⟩

/-- A box that bears the name of the root. -/
def homonymBox : Line := (Command.create "w" "box" (some "w")).toLine

/-- A label below that name. -/
def homonymLabel : Line := (Command.create "c" "label" (some "w")).toLine

/-- The site at which the label is created. -/
def homonymSite : Site :=
  siteAfter (Task.command homonymBox).run ⟨{ window := some "w" }, { tree := .new }⟩

theorem Builder.Ran.namesRootOnce_homonym : ∃ builder s s',
    Builder.Ran lostBox.lines builder ∧ builder.window = some "w" ∧
    TakesUp [homonymBox, homonymLabel] ⟨builder.rested, { tree := .new }⟩
      (.command homonymLabel) s ∧
    s.builder.created.get? "w" = some 1 ∧ (Task.command homonymLabel).run s = .ok () s' ∧
    BroughtBelowRoot "c" (.xul, "label") s s' := by
  have hlines : [] ++ Builder.new.carriedOut { tree := .new } lostBox = lostBox.lines := by
    decide +kernel
  have hran := Builder.Ran.run .new { tree := .new } lostBox
  rw [hlines] at hran
  obtain ⟨hname, hruns⟩ := hran.namesRootOnce
  have hwindow : (Builder.new.run { tree := .new } lostBox).2.1.window = some "w" :=
    hname.trans (by decide +kernel)
  have hbox : (Task.command homonymBox).run ⟨{ window := some "w" }, { tree := .new }⟩ =
      .ok () homonymSite := rfl
  have hlabel : (Task.command homonymLabel).run homonymSite =
      .ok () (siteAfter (Task.command homonymLabel).run homonymSite) := rfl
  have htask : TakesUp [homonymBox, homonymLabel]
      ⟨(Builder.new.run { tree := .new } lostBox).2.1.rested, { tree := .new }⟩
      (.command homonymLabel) homonymSite := by
    rw [rested, hwindow]
    exact .command (.next hbox (.first ..))
  have hplace := (hruns { tree := .new } ⟨"", [homonymBox, homonymLabel]⟩).creates _ _ _ "c" "label"
    "w" htask rfl (by decide +kernel) (by decide +kernel) hlabel
  exact ⟨_, homonymSite, _, hran, hwindow, htask, by decide +kernel, hlabel, hplace⟩

end Runs

end RemoteUi
