import RemoteUi.Proofs.Build.Soundness

/-!
# Outcomes of steps

What a step of the builder leads to, whichever way it goes, is put together along the way the step
itself is put together.

* §1 the rules for steps put together from others;
* §2 the edits asked of a host, each with what it does to the tree;
* §3 the elements that wait for a parent, one after the other.
-/

namespace RemoteUi

open RemoteUi.Wire

namespace Build

/-! ## §1 Outcomes -/

/-- A step of the builder leads from a site to results that satisfy `ok` and to faults that satisfy
`fault`. -/
def Leads {α : Type} (step : Build α) (site : Site) (ok : α → Site → Prop)
    (fault : Site → Prop) : Prop :=
  match step site with
  | .ok a s => ok a s
  | .error _ s => fault s

section Rules

variable {α β : Type} {site : Site} {ok ok' : α → Site → Prop} {fault : Site → Prop}

theorem Leads.of_ok {step : Build α} {a : α} {s : Site} (h : Leads step site ok fault)
    (hs : step site = .ok a s) : ok a s := by
  unfold Leads at h
  simpa only [hs] using h

theorem Leads.of_error {step : Build α} {f : Fault} {s : Site} (h : Leads step site ok fault)
    (hs : step site = .error f s) : fault s := by
  unfold Leads at h
  simpa only [hs] using h

theorem leads_pure {a : α} (h : ok a site) : Leads (pure a : Build α) site ok fault := h

theorem leads_throw {f : Fault} (h : fault site) : Leads (throw f : Build α) site ok fault := h

theorem Leads.bind {step : Build α} {next : α → Build β} {result : β → Site → Prop}
    (h : Leads step site ok fault) (hnext : ∀ a s, ok a s → Leads (next a) s result fault) :
    Leads (step >>= next) site result fault := by
  unfold Leads at h ⊢
  simp only [Bind.bind, EStateM.bind]
  cases hs : step site with
  | ok a s =>
    simp only [hs] at h
    exact hnext a s h
  | error f s => simpa only [hs] using h

theorem Leads.imp {step : Build α} {fault' : Site → Prop} (h : Leads step site ok fault)
    (hok : ∀ a s, ok a s → ok' a s) (hfault : ∀ s, fault s → fault' s) :
    Leads step site ok' fault' := by
  unfold Leads at h ⊢
  cases hs : step site with
  | ok a s =>
    simp only [hs] at h
    exact hok a s h
  | error f s =>
    simp only [hs] at h
    exact hfault s h

theorem Leads.mono {step : Build α} (h : Leads step site ok fault)
    (hok : ∀ a s, ok a s → ok' a s) : Leads step site ok' fault :=
  h.imp hok fun _ => id

/-- What holds whichever way a step goes holds of the site after it. -/
theorem Leads.siteAfter {step : Build α} {P : Site → Prop}
    (h : Leads step site (fun _ => P) P) : P (siteAfter step site) := by
  unfold Leads at h
  unfold Build.siteAfter
  cases hs : step site <;> simpa only [hs] using h

/-- An annotation changes the fault only. -/
theorem Leads.onLine {step : Build α} (h : Leads step site ok fault) (line : Line) :
    Leads (onLine line step) site ok fault := by
  unfold Leads at h ⊢
  simp only [Build.onLine]
  cases hs : step site <;> simpa only [hs] using h

theorem leads_get_bind {next : Site → Build α} (h : Leads (next site) site ok fault) :
    Leads ((get : Build Site) >>= next) site ok fault := h

theorem leads_remember {f : Builder → Builder} {ok : Unit → Site → Prop}
    (h : ok () { site with builder := f site.builder }) : Leads (remember f) site ok fault := h

theorem leads_remember_bind {f : Builder → Builder} {next : Unit → Build α}
    (h : Leads (next ()) { site with builder := f site.builder } ok fault) :
    Leads (remember f >>= next) site ok fault := h

/-- A loop leads where its body leads, one turn after the other. -/
theorem leads_forM {γ : Type} {f : γ → Build Unit} (inv : List γ → Site → Prop) {xs : List γ}
    (hbody : ∀ x rest s, inv (x :: rest) s → Leads (f x) s (fun _ s' => inv rest s') fault)
    (h : inv xs site) : Leads (xs.forM f) site (fun _ s => inv [] s) fault := by
  -- The invariant speaks of what is left of the list, so it is the list that the induction is on.
  induction xs generalizing site with
  | nil => exact leads_pure h
  | cons x rest ih =>
    apply (hbody x rest site h).bind
    intro _ s hs
    exact ih hs

end Rules

/-! ## §2 Edits -/

section Edits

variable {site : Site} {fault : Site → Prop}

/-- An edit leads to what it does to the tree, or is noted and refused. -/
theorem leads_edit_perform {α : Type} {ok : α → Site → Prop} (call : Call) {act : Edit α}
    (hact : Tree.Atomic act)
    (hok : ∀ a tree, act site.tree = .ok a tree →
      ok a { site with host := { site.host.noted call with tree } })
    (hfault : fault { site with host := site.host.noted call }) :
    Leads (edit (Host.perform call act)) site ok fault := by
  unfold Leads edit
  rcases Host.perform_cases call hact site.host with ⟨e, h⟩ | ⟨a, tree, ha, h⟩
  · simp only [h]
    exact hfault
  · simp only [h]
    exact hok a tree ha

/-- A node is put below another one.  The children that are noted are read off the tree first, which
changes nothing. -/
theorem leads_edit_append {ok : Unit → Site → Prop} {parent node : Handle}
    (hok : ∀ tree, Tree.append parent node site.tree = .ok () tree →
      ok () { site with host := { site.host.noted
        (.append parent node (site.tree.children node)) with tree } })
    (hfault : fault
      { site with host := site.host.noted (.append parent node (site.tree.children node)) }) :
    Leads (edit (Host.append parent node)) site ok fault := by
  have happend : Leads (edit (Host.perform (.append parent node (site.tree.children node))
      (Tree.append parent node))) site ok fault :=
    leads_edit_perform _ (Tree.atomic_append parent node) (fun _ tree h => hok tree h) hfault
  exact happend

/-- A node without a place is put below another one. -/
theorem leads_append {ok : Unit → Site → Prop} {parent node : Handle} (ha : site.tree.Anchored)
    (hloose : site.tree.Loose node)
    (hok : site.tree.Open parent node → ok () (site.attach parent node))
    (hfault : fault
      { site with host := site.host.noted (.append parent node (site.tree.children node)) }) :
    Leads (edit (Host.append parent node)) site ok fault := by
  refine leads_edit_append (fun tree h => ?_) hfault
  obtain ⟨helement, hcycle, rfl⟩ := Tree.append_ok ha.toWellFormed hloose.parent? h
  exact hok ⟨helement, hcycle⟩

theorem leads_createElement {ok : Handle → Site → Prop} (vocabulary : Vocabulary) (tag : String)
    (id : NodeId)
    (hok : ok site.tree.slots.size
      { site with host := { site.host.noted (.createElement vocabulary tag id) with
          tree := site.tree.withElement vocabulary tag id } })
    (hfault : fault { site with host := site.host.noted (.createElement vocabulary tag id) }) :
    Leads (edit (Host.createElement vocabulary tag id)) site ok fault := by
  refine leads_edit_perform _ (Tree.atomic_createElement vocabulary tag id) (fun a tree h => ?_)
    hfault
  rw [Tree.createElement_eq] at h
  split at h
  · cases h
    exact hok
  · cases h

/-- A text is always created. -/
theorem leads_createText_bind {α : Type} {ok : α → Site → Prop} {next : Handle → Build α}
    (content : String)
    (h : Leads (next site.tree.slots.size) (site.write content) ok fault) :
    Leads (edit (Host.createText content) >>= next) site ok fault := h

/-- An edit that leaves all nodes in their places. -/
theorem leads_quiet {ok : Unit → Site → Prop} (call : Call) {act : Edit Unit}
    (hact : Tree.Atomic act)
    (hshape : ∀ tree tree', act tree = .ok () tree' → tree.SameShape tree')
    (hok : ∀ host : Host, site.tree.SameShape host.tree →
      host.journal = site.host.journal ++ [call] → ok () { site with host })
    (hfault : fault { site with host := site.host.noted call }) :
    Leads (edit (Host.perform call act)) site ok fault :=
  leads_edit_perform call hact (fun _ tree h => hok _ (hshape _ tree h) rfl) hfault

theorem resolve_of_none {id : NodeId} (h : site.resolve? id = none) :
    resolve id site = .error (.unresolved id) site := by
  unfold resolve
  rw [get_bind_apply, h]
  rfl

theorem resolve_of_some {id : NodeId} {node : Handle} (h : site.resolve? id = some node) :
    resolve id site = .ok node site := by
  unfold resolve
  rw [get_bind_apply, h]
  rfl

/-- An id is resolved, or that is a fault. -/
theorem leads_resolve_bind {α : Type} {ok : α → Site → Prop} {next : Handle → Build α}
    {id : NodeId} (hnone : fault site)
    (hsome : ∀ node, site.resolve? id = some node → Leads (next node) site ok fault) :
    Leads (resolve id >>= next) site ok fault := by
  unfold resolve
  refine Leads.bind (leads_get_bind ?_) fun node s hs => hs
  cases hr : site.resolve? id with
  | none => exact leads_throw hnone
  | some node => exact leads_pure (hsome node hr)

end Edits

/-! ## §3 Waiting elements -/

/-- An edit leaves what the builder remembers as it is. -/
theorem leads_edit_keeps {α : Type} {act : HostEdit α} {site : Site} {ok : α → Site → Prop}
    {fault : Site → Prop} (h : Leads (edit act) site ok fault) :
    Leads (edit act) site (fun a s => ok a s ∧ s.builder = site.builder) fault := by
  unfold Leads edit at h ⊢
  cases hact : act site.host with
  | ok a host =>
    simp only [hact] at h
    exact ⟨h, rfl⟩
  | error e host => simpa only [hact] using h

/-- **The elements that wait for a parent are attached in turn.**  What holds before a turn is handed
on by the edit of this turn, whose element is not held back any more; at the end no element waits for
the parent, and the others wait as before. -/
theorem leads_attachWaiting_turns (inv : Site → Prop) {fault : Site → Prop} {site : Site}
    {id : NodeId} {parent : Handle}
    (hturn : ∀ before e after s, s.builder.held = before ++ e :: after →
      (∀ e' ∈ before, e'.awaitsParent id = false) → e.awaitsParent id → inv s →
      Leads (edit (Host.append parent e.node))
        { s with builder := { s.builder with held := before ++ after } } (fun _ => inv) fault)
    (h : inv site) :
    Leads (attachWaiting id parent) site
      (fun _ s => inv s ∧ s.builder = { site.builder with
        held := site.builder.held.filter fun e => !e.awaitsParent id }) fault := by
  apply leads_get_bind
  -- The turns that are left are for those who wait still; the others are never touched.
  refine (leads_forM (fun rest s => inv s ∧ s.builder.held.filter (·.awaitsParent id) = rest ∧
    s.builder = { site.builder with held := s.builder.held } ∧
    s.builder.held.filter (!·.awaitsParent id) = site.builder.held.filter (!·.awaitsParent id))
    ?_ ⟨h, rfl, rfl, rfl⟩).mono ?_
  · rintro e rest s ⟨hinv, hrest, hbuilder, hothers⟩
    obtain ⟨before, after, hheld, hbefore, he, hafter⟩ := List.filter_eq_cons_iff.mp hrest
    have hfirst : (e :: after).eraseP (·.awaitsParent id) = after := List.eraseP_cons_of_pos he
    have herase : s.builder.held.eraseP (·.awaitsParent id) = before ++ after := by
      rw [hheld, List.eraseP_append_right _ hbefore, hfirst]
    have hnone : before.filter (·.awaitsParent id) = [] := List.filter_eq_nil_iff.mpr hbefore
    unfold attachNext
    apply leads_remember_bind
    rw [herase]
    refine ((leads_edit_keeps (hturn before e after s hheld (by simpa using hbefore) he
      hinv)).onLine e.origin).mono ?_
    rintro _ s' ⟨hinv', hbuilder'⟩
    rw [hbuilder']
    refine ⟨hinv', ?_, ?_, ?_⟩
    · rw [List.filter_append, hnone, List.nil_append, hafter]
    · rw [hbuilder]
    · rw [← hothers, hheld, List.filter_append, List.filter_append,
        List.filter_cons_of_neg (by simp [he])]
  · rintro _ s ⟨hinv, hnone, hbuilder, hothers⟩
    refine ⟨hinv, ?_⟩
    -- What is left held back does not wait for the parent.
    have hall : s.builder.held.filter (!·.awaitsParent id) = s.builder.held :=
      List.filter_eq_self.mpr fun e he => by
        simpa using List.filter_eq_nil_iff.mp hnone e he
    rw [hbuilder, ← hothers, hall]

end Build

end RemoteUi
