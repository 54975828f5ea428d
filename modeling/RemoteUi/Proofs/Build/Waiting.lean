import RemoteUi.Proofs.Build.Books
import RemoteUi.Proofs.Build.Passes

/-!
# What waits between two lines

After each line of a reply an element is held back for a good reason: its parent is not there, or it
is a menu whose popup has not come yet.  Which ids denote an element and which menus wait for a popup
can be read off the lines, since each line enters little into the books of the builder.

* §1 what a line enters into the books;
* §2 what lines enter, and what they undo;
* §3 what is held back.
-/

namespace RemoteUi

open RemoteUi.Wire

/-! ## §1 What a line enters -/

/-- The elements held back that wait for a popup. -/
def Builder.owners (builder : Builder) : List Held := builder.held.filter (·.awaits = .popup)

namespace Wire.Line

/-- The elements remembered after a line; `node` is the handle of the next node to be created. -/
def created (line : Line) (node : Handle) (created : Dict Handle) : Dict Handle :=
  match line.command with
  | .create id _ _ => created.insert id node
  | .remove id => created.erase id
  | _ => created

/-- The elements that wait for a popup after a line.  A new menu begins to wait, and a new popup ends
the waiting of the first menu that it names. -/
def owners (line : Line) (node : Handle) (owners : List Held) : List Held :=
  match line.command with
  | .create id tag parent =>
    if popupOwnerTags.contains (Vocabulary.resolve tag).2 then
      owners ++ [⟨id, node, parent, .popup, line⟩]
    else if (Vocabulary.resolve tag).2 = popupTag then
      owners.eraseP fun owner => parent = some owner.id
    else owners
  | _ => owners

end Wire.Line

namespace Build

/-- The books say which elements are remembered and which ones wait for a popup. -/
structure Enters (created : Dict Handle) (owners : List Held) (site : Site) : Prop where
  created : site.builder.created = created
  owners : site.builder.owners = owners

section Enters

variable {created : Dict Handle} {owners : List Held} {site : Site}

theorem Enters.of_builder_eq {s : Site} (h : Enters created owners site)
    (hbuilder : s.builder = site.builder) : Enters created owners s where
  created := by rw [hbuilder, h.created]
  owners := by rw [hbuilder, h.owners]

theorem KeepsBooks.enters {α : Type} {step : Build α} (hstep : KeepsBooks step)
    (h : Enters created owners site) :
    Leads step site (fun _ => Enters created owners) fun _ => True :=
  (hstep.leads site).imp (fun _ _ => h.of_builder_eq) fun _ _ => trivial

/-- Only elements that wait for a parent are attached to it. -/
theorem Enters.attachWaiting (h : Enters created owners site) (id : NodeId) (parent : Handle) :
    Leads (attachWaiting id parent) site (fun _ => Enters created owners) fun _ => True := by
  refine (books_attachWaiting id parent).imp (fun _ s hs => ⟨?_, ?_⟩) fun _ _ => trivial
  · rw [hs, h.created]
  · rw [hs, ← h.owners, Builder.owners, Builder.owners, List.filter_filter]
    refine List.filter_congr fun e _ => ?_
    cases hawaits : e.awaits <;> simp [Held.awaitsParent, hawaits]

theorem Enters.attachOrHold (h : Enters created owners site) (e : Held) :
    Leads (attachOrHold e) site (fun _ => Enters created owners) fun _ => True := by
  refine (books_attachOrHold e).imp ?_ fun _ _ => trivial
  rintro _ s (hs | ⟨-, hs⟩)
  · exact h.of_builder_eq hs
  · refine ⟨by rw [hs, h.created], ?_⟩
    rw [hs, ← h.owners, Builder.owners, List.filter_append]
    simp [Builder.owners]

/-- The owner of a popup is the first one of those that wait and that the popup names. -/
theorem Enters.ownerOf (h : Enters created owners site) (tag : String) (parent : Option NodeId) :
    Leads (ownerOf tag parent) site (fun _ => Enters created
      (if tag = popupTag then owners.eraseP fun owner => parent = some owner.id else owners))
      fun _ => True := by
  unfold Build.ownerOf
  cases parent with
  | none =>
    have hnone : owners.eraseP (fun owner => (none : Option NodeId) = some owner.id) = owners :=
      List.eraseP_of_forall_not (by simp)
    rw [hnone, ite_self]
    exact leads_pure h
  | some parent =>
    dsimp only
    split
    · refine leads_get_bind (leads_remember_bind (leads_pure ⟨h.created, ?_⟩))
      have hnamed : (fun e : Held => e.awaitsPopup parent) =
          fun e => decide (some parent = some e.id) && decide (e.awaits = .popup) := by
        funext e
        simp only [Held.awaitsPopup, Option.some.injEq, Bool.and_comm, eq_comm]
      rw [← h.owners, Builder.owners, Builder.owners, List.eraseP_filter, hnamed]
    · exact leads_pure h

theorem Enters.settle (h : Enters created owners site) {line : Line} {id : NodeId} {tag : String}
    {parent : Option NodeId} {node : Handle} (hline : line.command = .create id tag parent) :
    Leads (settle (Vocabulary.resolve tag).2 ⟨id, node, parent, .parent, line⟩) site
      (fun _ => Enters created (line.owners node owners)) fun _ => True := by
  unfold Build.settle Line.owners
  rw [hline]
  dsimp only
  split
  · refine leads_remember ⟨h.created, ?_⟩
    rw [← h.owners, Builder.owners, List.filter_append]
    simp [Builder.owners]
  · refine (h.ownerOf _ _).bind fun owner s hs => ?_
    cases owner with
    | none => exact hs.attachOrHold _
    | some owner => exact ((keepsBooks_edit _).enters hs).bind fun _ s' hs' => hs'.attachOrHold _

/-- **What a line enters into the books** does not depend on the host. -/
theorem enters_perform (line : Line) (site : Site) :
    Leads (perform line) site (fun _ => Enters
      (line.created site.tree.slots.size site.builder.created)
      (line.owners site.tree.slots.size site.builder.owners)) fun _ => True := by
  have h : Enters site.builder.created site.builder.owners site := ⟨rfl, rfl⟩
  unfold perform Line.created
  cases hc : line.command with
  | window id =>
    simp only [Line.owners, hc]
    apply leads_get_bind
    cases site.builder.window with
    | none => exact leads_remember_bind (Enters.attachWaiting ⟨rfl, rfl⟩ id Tree.root)
    | some window =>
      by_cases heq : window = id
      · simpa only [if_pos heq] using h.attachWaiting id Tree.root
      · simp only [if_neg heq]
        exact leads_pure h
  | create id tag parent =>
    refine Leads.bind ((books_bringForth id _ _).imp (fun _ _ hs => hs) fun _ _ => trivial) ?_
    rintro _ s ⟨rfl, hs⟩
    have hs' : Enters (site.builder.created.insert id site.tree.slots.size) site.builder.owners s :=
      ⟨by rw [hs], by rw [hs]; rfl⟩
    exact (hs'.settle hc).bind fun _ s' hs' => hs'.attachWaiting id _
  | remove id =>
    simp only [Line.owners, hc]
    refine (books_remove id).imp (fun _ s hs => ⟨?_, ?_⟩) fun _ _ => trivial
    · rw [hs]
    · rw [hs]
      rfl
  | set id key value =>
    simp only [Line.owners, hc]
    split
    · exact leads_remember ⟨rfl, rfl⟩
    · exact (keepsBooks_setKey id key value).enters h

end Enters

end Build

/-! ## §2 What lines enter -/

/-- One of some lines does a thing, and none after it undoes it.  What a line does may depend on the
lines before it. -/
def Lasting (does : List Line → Line → Prop) (undoes : Line → Prop) (lines : List Line) : Prop :=
  ∃ before line after, lines = before ++ line :: after ∧ does before line ∧
    ∀ line ∈ after, ¬ undoes line

section Lasting

variable {does : List Line → Line → Prop} {undoes : Line → Prop} {lines : List Line} {line : Line}

theorem not_lasting_nil : ¬ Lasting does undoes [] := by
  rintro ⟨before, line, after, hlines, -⟩
  simp at hlines

/-- The last line does a thing, or it leaves what is done. -/
theorem lasting_concat : Lasting does undoes (lines ++ [line]) ↔
    does lines line ∨ Lasting does undoes lines ∧ ¬ undoes line := by
  constructor
  · rintro ⟨before, first, after, hlines, hdoes, hafter⟩
    rcases List.eq_nil_or_concat' after with rfl | ⟨rest, last, rfl⟩
    · obtain ⟨rfl, rfl⟩ := List.append_singleton_inj.mp hlines
      exact .inl hdoes
    · rw [← List.cons_append, ← List.append_assoc] at hlines
      obtain ⟨rfl, rfl⟩ := List.append_singleton_inj.mp hlines
      rw [List.forall_mem_append] at hafter
      exact .inr ⟨⟨before, first, rest, rfl, hdoes, hafter.1⟩, hafter.2 _ List.mem_cons_self⟩
  · rintro (hdoes | ⟨⟨before, first, after, rfl, hdoes, hafter⟩, hline⟩)
    · exact ⟨lines, line, [], rfl, hdoes, nofun⟩
    · refine ⟨before, first, after ++ [line], by simp, hdoes, ?_⟩
      rw [List.forall_mem_append]
      exact ⟨hafter, fun _ hmem => List.mem_singleton.mp hmem ▸ hline⟩

end Lasting

/-- An element with an id was created, and none was removed under this id since. -/
def Brought (lines : List Line) (id : NodeId) : Prop :=
  Lasting (fun _ line => ∃ tag parent, line.command = .create id tag parent)
    (fun line => line.command = .remove id) lines

/-- A line creates the popup of an element. -/
def Wire.Line.CreatesPopupOf (line : Line) (owner : NodeId) : Prop :=
  ∃ id tag, line.command = .create id tag (some owner) ∧ (Vocabulary.resolve tag).2 = popupTag

/-- A line creates a menu, which is held back until its popup comes. -/
def Wire.Line.CreatesOwner (line : Line) (node : Handle) (e : Held) : Prop :=
  ∃ id tag parent, line.command = .create id tag parent ∧
    popupOwnerTags.contains (Vocabulary.resolve tag).2 ∧ e = ⟨id, node, parent, .popup, line⟩

/-- A menu was created, and no popup that names it since.  The nodes that the lines create are counted
from `base` on. -/
def Popupless (base : Nat) (lines : List Line) (e : Held) : Prop :=
  Lasting (fun before line => line.CreatesOwner (base + (newcomers before).length) e)
    (·.CreatesPopupOf e.id) lines

/-- Of elements that differ in what is looked for, the one that is found is taken out. -/
theorem mem_eraseP_iff {α : Type} {p : α → Bool} {xs : List α} {x : α}
    (h : xs.Pairwise fun a b => p a → ¬ p b) : x ∈ xs.eraseP p ↔ x ∈ xs ∧ ¬ p x := by
  induction xs with
  | nil => simp
  | cons a xs ih =>
    obtain ⟨hfirst, hrest⟩ := List.pairwise_cons.mp h
    by_cases ha : p a
    · rw [List.eraseP_cons_of_pos ha, List.mem_cons]
      constructor
      · exact fun hx => ⟨.inr hx, hfirst x hx ha⟩
      · rintro ⟨rfl | hx, hnot⟩
        · exact absurd ha hnot
        · exact hx
    · rw [List.eraseP_cons_of_neg ha, List.mem_cons, List.mem_cons, ih hrest]
      constructor
      · rintro (rfl | ⟨hx, hnot⟩)
        · exact ⟨.inl rfl, ha⟩
        · exact ⟨.inr hx, hnot⟩
      · exact fun ⟨hx, hnot⟩ => hx.imp_right fun hx => ⟨hx, hnot⟩

/-- **A line lets a new menu wait, and no longer one that it creates the popup of.** -/
theorem Wire.Line.mem_owners_iff {owners : List Held} (line : Line) (node : Handle)
    (h : owners.Pairwise fun e e' => e.id ≠ e'.id) (e : Held) :
    e ∈ line.owners node owners ↔
      line.CreatesOwner node e ∨ e ∈ owners ∧ ¬ line.CreatesPopupOf e.id := by
  cases hc : line.command with
  | window | remove | set => simp [Line.owners, Line.CreatesOwner, Line.CreatesPopupOf, hc]
  | create id tag parent =>
    have howners : line.CreatesOwner node e ↔
        popupOwnerTags.contains (Vocabulary.resolve tag).2 ∧
          e = ⟨id, node, parent, .popup, line⟩ := by
      simp [Line.CreatesOwner, hc]
    have hpopup : line.CreatesPopupOf e.id ↔
        (Vocabulary.resolve tag).2 = popupTag ∧ parent = some e.id := by
      simp [Line.CreatesPopupOf, hc, and_comm]
    rw [howners, hpopup]
    simp only [Line.owners, hc]
    split
    · next hmenu =>
      -- A menu is no popup.
      have hnot : (Vocabulary.resolve tag).2 ≠ popupTag := by
        intro heq
        rw [heq] at hmenu
        exact absurd hmenu (by decide)
      simp [-List.contains_eq_mem, hmenu, hnot, or_comm]
    split
    · next hnone htag =>
      have hone : owners.Pairwise fun a b =>
          decide (parent = some a.id) → ¬ decide (parent = some b.id) := by
        refine h.imp fun hne ha hb => hne ?_
        exact Option.some.inj ((of_decide_eq_true ha).symm.trans (of_decide_eq_true hb))
      rw [mem_eraseP_iff hone, decide_eq_true_iff]
      constructor
      · exact fun ⟨hmem, hne⟩ => .inr ⟨hmem, fun hnamed => hne hnamed.2⟩
      · rintro (hmenu | ⟨hmem, hnot⟩)
        · exact absurd hmenu.1 hnone
        · exact ⟨hmem, fun hnamed => hnot ⟨htag, hnamed⟩⟩
    · next hnone htag =>
      constructor
      · exact fun hmem => .inr ⟨hmem, fun hnamed => htag hnamed.1⟩
      · rintro (hmenu | ⟨hmem, -⟩)
        · exact absurd hmenu.1 hnone
        · exact hmem

namespace Build

variable {start s : Site} {lines : List Line}

/-- **Remembered are the ids under which elements were created and not removed since.** -/
theorem isSome_created_iff (h : commands lines (siteAfter reset start) = .ok () s) (id : NodeId) :
    (s.builder.created.get? id).isSome ↔ Brought lines id := by
  induction lines using List.reverseRecOn generalizing s with
  | nil =>
    cases h
    exact iff_of_false Bool.false_ne_true not_lasting_nil
  | append_singleton lines line ih =>
    obtain ⟨s₁, hlines, hline⟩ := commands_concat_eq_ok h
    have hcreated := ((enters_perform line s₁).of_ok hline).created
    rw [hcreated, Brought, lasting_concat, ← Brought, ← ih hlines, Line.created]
    cases hc : line.command with
    | create id' tag parent =>
      by_cases heq : id' = id <;> simp [Dict.get?_insert, heq]
    | remove id' =>
      by_cases heq : id' = id <;> simp [Dict.get?_erase, heq]
    | window | set => simp

/-- Elements that wait have different ids if all new elements do. -/
theorem pairwise_owners (hstart : Standing start.builder start.tree)
    (hnodup : (newIds (newcomers lines)).Nodup)
    (h : commands lines (siteAfter reset start) = .ok () s) :
    s.builder.owners.Pairwise fun e e' => e.id ≠ e'.id := by
  have hsound := (settled_of_commands hstart h).reached.sound hstart
  refine List.Pairwise.filter _ ((List.pairwise_map.mp hsound.nodup).imp_of_mem ?_)
  intro e e' he he' hne hid
  obtain ⟨tag, hborn⟩ := hsound.waiting e he
  obtain ⟨tag', hborn'⟩ := hsound.waiting e' he'
  exact hne (node_eq_of_id? hnodup hborn rfl hborn' (congrArg some hid.symm))

/-- **The elements that wait for a popup are the menus that no popup has named since.** -/
theorem mem_owners_iff (hstart : Standing start.builder start.tree)
    (hnodup : (newIds (newcomers lines)).Nodup)
    (h : commands lines (siteAfter reset start) = .ok () s) (e : Held) :
    e ∈ s.builder.owners ↔ Popupless start.tree.slots.size lines e := by
  induction lines using List.reverseRecOn generalizing s with
  | nil =>
    cases h
    exact iff_of_false List.not_mem_nil not_lasting_nil
  | append_singleton lines line ih =>
    obtain ⟨s₁, hlines, hline⟩ := commands_concat_eq_ok h
    have hnodup₁ := nodup_newIds_of_isPrefix (newcomers_isPrefix (List.prefix_append ..)) hnodup
    have howners := ((enters_perform line s₁).of_ok hline).owners
    have hsize := ((settled_of_commands hstart hlines).reached.sound hstart).size
    have hpairwise := pairwise_owners hstart hnodup₁ hlines
    rw [howners, Line.mem_owners_iff line _ hpairwise, ih hnodup₁ hlines, Popupless, Popupless,
      lasting_concat, ← hsize]

end Build

/-! ## §3 What is held back -/

/-- What is held back between two lines: `lines` have been carried out, and they began in `tree`. -/
structure HoldsRightly (tree : Tree) (lines : List Line) (site : Site) : Prop where
  /-- No element waits for a parent that is there. -/
  parents : ∀ e ∈ site.builder.held, e.awaits = .parent → ∀ id, e.parent = some id →
    site.resolve? id = none
  /-- There are the root under its name, the elements that were created and not removed since, and
  the elements that the tree finds. -/
  there : ∀ id, (site.resolve? id).isSome ↔ site.builder.window = some id ∨ Brought lines id ∨
    (site.host.tree.lookup? id).isSome
  /-- What is held back is a new element, and stands nowhere. -/
  elements : ∀ e ∈ site.builder.held, site.host.tree.parent? e.node = none ∧
    ∃ tag, (.element e.id tag e.parent, e.node) ∈ born tree.slots.size (newcomers lines) ∧
      site.host.tree.kind? e.node = some (some e.id, Vocabulary.resolve tag)
  /-- No element is held back twice. -/
  once : (site.builder.held.map (·.node)).Nodup
  /-- If the new ids are different, those that wait for a popup are just the menus that no popup has
  named since they were created. -/
  popups : (newIds (newcomers lines)).Nodup → ∀ e,
    e ∈ site.builder.held ∧ e.awaits = .popup ↔ Popupless tree.slots.size lines e

section Runs

open Build

variable {builder : Builder} {host : Host} {reply : Reply} {before after : List Line} {site : Site}

/-- **Between any two lines of a reply, what is held back waits for something that is not there.**  The
site that some lines of the reply lead to without a fault is the one from which the run goes on. -/
theorem Reachable.holdsRightly (h : Reachable builder host.tree)
    (hlines : reply.lines = before ++ after)
    (hbefore : commands before ⟨builder.rested, host⟩ = .ok () site) :
    HoldsRightly host.tree before site ∧
      builder.run host reply = match proceed after site with
        | .ok _ site => (.ok (), site.builder, site.host)
        | .error fault site => (.error fault, site.builder, site.host) := by
  refine ⟨?_, Builder.run_of_commands hlines hbefore⟩
  have hstart : Standing (⟨builder, host⟩ : Site).builder (⟨builder, host⟩ : Site).tree := h.standing
  have hcommands : commands before (siteAfter reset ⟨builder, host⟩) = .ok () site := hbefore
  have hsettled := settled_of_commands hstart hcommands
  have hsound := hsettled.reached.sound hstart
  refine { parents := ?parents, there := ?there, elements := ?elements, once := hsound.nodup,
           popups := ?popups }
  case parents =>
    intro e he hawaits id hid
    have hnone := hsettled.clear_stage e he hawaits
    rwa [hid] at hnone
  case there =>
    intro id
    rw [← isSome_created_iff hcommands, Site.resolve?]
    by_cases hwindow : site.builder.window = some id <;> simp [hwindow, Option.isSome_or]
  case elements =>
    intro e he
    obtain ⟨tag, hborn⟩ := hsound.waiting e he
    exact ⟨hsound.loose e he, tag, hborn, hsound.shows _ _ hborn⟩
  case popups =>
    intro hnodup e
    have howners := mem_owners_iff hstart hnodup hcommands e
    rwa [Builder.owners, List.mem_filter, decide_eq_true_iff] at howners

/-- A menu with its popup, a menu list without one, and a box whose parent is missing. -/
def waitingLines : List Line :=
  [(Command.window "w").toLine, (Command.create "m" "menu" (some "w")).toLine,
    (Command.create "n" "menulist" (some "w")).toLine,
    (Command.create "p" "menupopup" (some "m")).toLine,
    (Command.create "b" "box" (some "missing")).toLine]

/-- The site after these lines, in a new window. -/
def waitingSite : Site := siteAfter (commands waitingLines) ⟨Builder.new.rested, { tree := .new }⟩

theorem Reachable.holdsRightly_new :
    commands waitingLines ⟨Builder.new.rested, { tree := .new }⟩ = .ok () waitingSite ∧
      waitingSite.builder.held.map (fun e => (e.id, e.awaits)) = [("n", .popup), ("b", .parent)] ∧
      HoldsRightly .new waitingLines waitingSite ∧
      Popupless Tree.new.slots.size waitingLines
        ⟨"n", 2, some "w", .popup, (Command.create "n" "menulist" (some "w")).toLine⟩ := by
  have hsucceeds : (match commands waitingLines ⟨Builder.new.rested, { tree := .new }⟩ with
      | .ok _ _ => true
      | .error _ _ => false) = true := by
    decide +kernel
  have hcommands : commands waitingLines ⟨Builder.new.rested, { tree := .new }⟩ =
      .ok () waitingSite := by
    unfold waitingSite siteAfter
    split at hsucceeds
    · next h => rw [h]
    · cases hsucceeds
  have hlines : (⟨"", waitingLines⟩ : Reply).lines = waitingLines ++ [] :=
    (List.append_nil _).symm
  have hstart : Reachable Builder.new ({ tree := .new } : Host).tree := .new
  obtain ⟨hholds, -⟩ := hstart.holdsRightly hlines hcommands
  exact ⟨hcommands, by decide +kernel, hholds,
    (hholds.popups (by decide +kernel) _).mp ⟨by decide +kernel, rfl⟩⟩

end Runs

end RemoteUi
