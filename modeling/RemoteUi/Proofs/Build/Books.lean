import Mathlib.Data.List.Induction
import RemoteUi.Proofs.Build.Course
import RemoteUi.Proofs.Build.Tasks

/-!
# The books of a builder

What a builder remembers is changed in a few places only.  Edits leave it as it is; and an element is
held back only when it is created, so what is held back tells which line brought it.

* §1 steps that leave the books as they are;
* §2 what the other steps enter into them;
* §3 what is held back;
* §4 the line that produced an element.
-/

namespace RemoteUi

open RemoteUi.Wire

namespace Build

/-! ## §1 Steps that leave the books as they are -/

/-- A step changes nothing that the builder remembers, whichever way it goes. -/
def KeepsBooks {α : Type} (step : Build α) : Prop :=
  ∀ site, (siteAfter step site).builder = site.builder

section KeepsBooks

variable {α β : Type} {step : Build α} {site : Site}

theorem keepsBooks_pure (a : α) : KeepsBooks (pure a : Build α) := fun _ => rfl

theorem keepsBooks_throw (fault : Fault) : KeepsBooks (throw fault : Build α) := fun _ => rfl

theorem keepsBooks_edit (act : HostEdit α) : KeepsBooks (edit act) := by
  intro site
  unfold siteAfter edit
  cases act site.host <;> rfl

theorem KeepsBooks.leads (h : KeepsBooks step) (site : Site) :
    Leads step site (fun _ s => s.builder = site.builder) (·.builder = site.builder) := by
  have hsite := h site
  unfold siteAfter at hsite
  unfold Leads
  cases hs : step site <;> simpa only [hs] using hsite

/-- What leads from every site to one with the same books keeps them. -/
theorem keepsBooks_of_leads
    (h : ∀ site, Leads step site (fun _ s => s.builder = site.builder)
      (·.builder = site.builder)) : KeepsBooks step :=
  fun site => (h site).siteAfter

theorem KeepsBooks.bind {next : α → Build β} (h : KeepsBooks step)
    (hnext : ∀ a, KeepsBooks (next a)) : KeepsBooks (step >>= next) := by
  apply keepsBooks_of_leads
  intro site
  refine (h.leads site).bind fun a s hs => ?_
  have hrest := (hnext a).leads s
  rwa [hs] at hrest

theorem keepsBooks_get_bind {next : Site → Build α} (h : ∀ site, KeepsBooks (next site)) :
    KeepsBooks ((get : Build Site) >>= next) :=
  fun site => h site site

theorem KeepsBooks.onLine (h : KeepsBooks step) (line : Line) : KeepsBooks (onLine line step) :=
  keepsBooks_of_leads fun site => (h.leads site).onLine line

theorem keepsBooks_forM {f : β → Build Unit} {xs : List β} (h : ∀ x ∈ xs, KeepsBooks (f x)) :
    KeepsBooks (xs.forM f) := by
  induction xs with
  | nil => exact keepsBooks_pure ()
  | cons x xs ih =>
    exact (h x List.mem_cons_self).bind fun _ => ih fun y hy => h y (List.mem_cons_of_mem _ hy)

end KeepsBooks

theorem keepsBooks_resolve (id : NodeId) : KeepsBooks (resolve id) := by
  apply keepsBooks_get_bind
  intro site
  cases site.resolve? id with
  | none => exact keepsBooks_throw _
  | some node => exact keepsBooks_pure node

theorem keepsBooks_setKey (id : NodeId) (key : String) (value : Option String) :
    KeepsBooks (setKey id key value) := by
  apply (keepsBooks_resolve id).bind
  intro node
  split
  · exact (keepsBooks_edit _).bind fun _ => keepsBooks_edit _
  split
  · unfold setFlag
    split
    · exact keepsBooks_edit _
    · exact keepsBooks_edit _
  split
  · exact keepsBooks_edit _
  split
  · exact (keepsBooks_edit _).bind fun _ => (keepsBooks_edit _).bind fun _ => keepsBooks_edit _
  · exact keepsBooks_edit _

theorem keepsBooks_dock (held : Held) : KeepsBooks (dock held) :=
  ((keepsBooks_resolve _).bind fun _ => keepsBooks_edit _).onLine _

theorem keepsBooks_performLate (line : Line) : KeepsBooks (performLate line) := by
  unfold performLate
  cases line.command with
  | set id key value => exact keepsBooks_setKey id key value
  | window id => exact keepsBooks_pure ()
  | create id tag parent => exact keepsBooks_pure ()
  | remove id => exact keepsBooks_pure ()

/-! ## §2 What steps enter into the books -/

section Entries

variable {site : Site}

/-- What waited for a parent is no longer held back once it is attached.  A fault leaves those that
were to come after it. -/
theorem books_attachWaiting (id : NodeId) (parent : Handle) :
    Leads (attachWaiting id parent) site
      (fun _ s => s.builder = { site.builder with
        held := site.builder.held.filter fun e => !e.awaitsParent id })
      (fun s => ∃ held, s.builder = { site.builder with held }) := by
  refine (leads_attachWaiting_turns (fun s => ∃ held, s.builder = { site.builder with held })
    ?_ ⟨_, rfl⟩).mono fun _ s hs => hs.2
  rintro before e after s - - - ⟨held, hs⟩
  have hout : ({ s.builder with held := before ++ after } : Builder) =
      { site.builder with held := before ++ after } := by rw [hs]
  exact ((keepsBooks_edit _).leads _).imp (fun _ s' hs' => ⟨_, hs'.trans hout⟩)
    fun s' hs' => ⟨_, hs'.trans hout⟩

/-- An element is held back only if its parent is not there. -/
theorem books_attachOrHold (e : Held) :
    Leads (attachOrHold e) site
      (fun _ s => s.builder = site.builder ∨ site.resolveParent? e.parent = none ∧
        s.builder = { site.builder with
          held := site.builder.held ++ [{ e with awaits := .parent }] })
      (·.builder = site.builder) := by
  apply leads_get_bind
  cases hparent : site.resolveParent? e.parent with
  | some parent => exact ((keepsBooks_edit _).leads site).mono fun _ s hs => .inl hs
  | none => exact leads_remember (.inr ⟨rfl, rfl⟩)

/-- A new element is remembered. -/
theorem books_bringForth (id : NodeId) (vocabulary : Vocabulary) (tag : String) :
    Leads (bringForth id vocabulary tag) site
      (fun node s => node = site.tree.slots.size ∧ s.builder = { site.builder with
        created := site.builder.created.insert id site.tree.slots.size })
      (·.builder.window = site.builder.window) := by
  refine Leads.bind (leads_createElement _ _ _ (leads_remember_bind ?_) rfl) fun _ s hs => hs
  cases wiring? tag id with
  | none => exact leads_pure ⟨rfl, rfl⟩
  | some listener =>
    refine Leads.bind (((keepsBooks_edit _).leads _).imp (fun _ _ hs => hs) fun s hs => ?_)
      fun _ s hs => leads_pure ⟨rfl, hs⟩
    rw [hs]

/-- A removed element is forgotten. -/
theorem books_remove (id : NodeId) :
    Leads (remove id) site
      (fun _ s => s.builder = { site.builder with created := site.builder.created.erase id })
      (·.builder = site.builder) := by
  apply leads_get_bind
  cases site.host.tree.lookup? id with
  | none => exact leads_throw rfl
  | some node =>
    apply leads_get_bind
    cases site.host.parent? node with
    | none => exact leads_throw rfl
    | some parent =>
      refine ((keepsBooks_edit _).leads site).bind fun _ s hs => leads_remember ?_
      rw [hs]

end Entries

/-! ## §3 What is held back -/

/-- All elements held back satisfy `P`. -/
def HoldsOnly (P : Held → Prop) (site : Site) : Prop := ∀ e ∈ site.builder.held, P e

section HoldsOnly

variable {P : Held → Prop} {site : Site}

theorem HoldsOnly.of_builder_eq {s : Site} (h : HoldsOnly P site)
    (hbuilder : s.builder = site.builder) : HoldsOnly P s := by
  unfold HoldsOnly
  rw [hbuilder]
  exact h

theorem KeepsBooks.holdsOnly {α : Type} {step : Build α} (hstep : KeepsBooks step)
    (h : HoldsOnly P site) :
    Leads step site (fun _ => HoldsOnly P) fun _ => True := by
  have hsite := hstep.leads site
  unfold Leads at hsite ⊢
  cases hs : step site with
  | ok a s =>
    simp only [hs] at hsite
    exact h.of_builder_eq hsite
  | error fault s => trivial

theorem HoldsOnly.attachWaiting (h : HoldsOnly P site) (id : NodeId) (parent : Handle) :
    Leads (attachWaiting id parent) site (fun _ => HoldsOnly P) fun _ => True := by
  refine (books_attachWaiting id parent).imp (fun _ s hs e he => ?_) fun _ _ => trivial
  rw [hs] at he
  exact h e (List.mem_filter.mp he).1

/-- What an element waits for may change while it is held back, so `P` must not depend on it. -/
theorem HoldsOnly.attachOrHold (h : HoldsOnly P site) {e : Held}
    (he : P { e with awaits := .parent }) :
    Leads (attachOrHold e) site (fun _ => HoldsOnly P) fun _ => True := by
  refine (books_attachOrHold e).imp ?_ fun _ _ => trivial
  rintro _ s (hs | ⟨-, hs⟩)
  · exact h.of_builder_eq hs
  · intro e' he'
    rw [hs] at he'
    rcases List.mem_append.mp he' with he' | he'
    · exact h e' he'
    · exact List.mem_singleton.mp he' ▸ he

theorem HoldsOnly.settle (hP : ∀ e awaits, P e → P { e with awaits }) (h : HoldsOnly P site)
    (tag : String) {e : Held} (he : P e) :
    Leads (settle tag e) site (fun _ => HoldsOnly P) fun _ => True := by
  unfold Build.settle
  split
  · apply leads_remember
    intro e' he'
    rcases List.mem_append.mp he' with he' | he'
    · exact h e' he'
    · exact List.mem_singleton.mp he' ▸ hP e .popup he
  · have howner : Leads (ownerOf tag e.parent) site
        (fun owner s => HoldsOnly P s ∧ ∀ o, owner = some o → P o) fun _ => True := by
      refine leads_ownerOf ⟨h, nofun⟩ ?_
      intro before owner after hheld _ _ _
      refine ⟨fun e' he' => h e' (mem_of_mem_place hheld he'), ?_⟩
      rintro _ ⟨⟩
      exact h owner (by rw [hheld]; simp)
    refine Leads.bind howner fun owner s hs => ?_
    cases owner with
    | none => exact hs.1.attachOrHold (hP e .parent he)
    | some owner =>
      refine ((keepsBooks_edit _).holdsOnly hs.1).bind fun _ s' hs' => ?_
      exact hs'.attachOrHold (hP owner .parent (hs.2 owner rfl))

/-- **A command holds back what was held back, and the element that it creates.** -/
theorem HoldsOnly.perform (hP : ∀ e awaits, P e → P { e with awaits }) (h : HoldsOnly P site)
    (line : Line)
    (hnew : ∀ id tag parent, line.command = .create id tag parent →
      P ⟨id, site.tree.slots.size, parent, .parent, line⟩) :
    Leads (perform line) site (fun _ => HoldsOnly P) fun _ => True := by
  unfold Build.perform
  cases hc : line.command with
  | window id =>
    apply leads_get_bind
    cases site.builder.window with
    | none =>
      apply leads_remember_bind
      apply HoldsOnly.attachWaiting
      exact h
    | some window =>
      by_cases heq : window = id
      · simpa only [if_pos heq] using h.attachWaiting id Tree.root
      · simp only [if_neg heq]
        exact leads_pure h
  | create id tag parent =>
    refine Leads.bind ((books_bringForth id _ _).imp (fun _ _ hs => hs) fun _ _ => trivial) ?_
    rintro _ s ⟨rfl, hs⟩
    have hheld : HoldsOnly P s := by
      unfold HoldsOnly
      rw [hs]
      exact h
    refine (HoldsOnly.settle hP hheld _ (hnew id tag parent hc)).bind fun _ s' hs' => ?_
    exact hs'.attachWaiting id site.tree.slots.size
  | remove id =>
    refine (books_remove id).imp (fun _ s hs e he => ?_) fun _ _ => trivial
    rw [hs] at he
    exact h e he
  | set id key value =>
    simp only
    split
    · exact leads_remember h
    · exact (keepsBooks_setKey id key value).holdsOnly h

end HoldsOnly

/-! ## §4 The line that produced an element -/

/-- An element was produced by the line that it names as its origin, when that line was carried out:
it has the handle of the next node to be created then. -/
structure Produced (lines : List Line) (site : Site) (e : Held) : Prop where
  origin : ∃ before after tag s, lines = before ++ e.origin :: after ∧
    e.origin.command = .create e.id tag e.parent ∧
    commands before site = .ok () s ∧ e.node = s.tree.slots.size

theorem Produced.mem {lines : List Line} {site : Site} {e : Held} (h : Produced lines site e) :
    e.origin ∈ lines := by
  obtain ⟨before, after, tag, s, hlines, -⟩ := h.origin
  simp [hlines]

theorem Produced.append {lines : List Line} {site : Site} {e : Held} (h : Produced lines site e)
    (more : List Line) : Produced (lines ++ more) site e := by
  obtain ⟨before, after, tag, s, hlines, h⟩ := h.origin
  exact ⟨before, after ++ more, tag, s, by simp [hlines], h⟩

/-- The last of some lines that succeed does so after the others. -/
theorem commands_concat_eq_ok {lines : List Line} {line : Line} {site s : Site}
    (h : commands (lines ++ [line]) site = .ok () s) :
    ∃ s₁, commands lines site = .ok () s₁ ∧ perform line s₁ = .ok () s := by
  rw [commands_append] at h
  cases hlines : commands lines site with
  | error fault s₁ =>
    rw [bind_of_error hlines] at h
    cases h
  | ok u s₁ =>
    rw [bind_of_ok hlines] at h
    change (onLine line (perform line) >>= fun _ => pure ()) s₁ = .ok () s at h
    refine ⟨s₁, rfl, ?_⟩
    cases hline : perform line s₁ with
    | error fault s₂ => simp [bind, EStateM.bind, onLine, hline] at h
    | ok u s₂ =>
      simp only [bind, EStateM.bind, onLine, hline] at h
      exact h

/-- **What is held back after some lines was produced by one of them.** -/
theorem produced_of_commands {lines : List Line} {site s : Site} (hheld : site.builder.held = [])
    (h : commands lines site = .ok () s) : HoldsOnly (Produced lines site) s := by
  induction lines using List.reverseRecOn generalizing s with
  | nil =>
    cases h
    intro e he
    rw [hheld] at he
    cases he
  | append_singleton lines line ih =>
    obtain ⟨s₁, hlines, hline⟩ := commands_concat_eq_ok h
    have hs₁ : HoldsOnly (Produced (lines ++ [line]) site) s₁ :=
      fun e he => (ih hlines e he).append [line]
    have hperform := HoldsOnly.perform (fun e awaits he => ⟨he.origin⟩) hs₁ line
      fun id tag parent hc => ⟨lines, [], tag, s₁, rfl, hc, hlines, rfl⟩
    exact hperform.of_ok hline

end Build

end RemoteUi
