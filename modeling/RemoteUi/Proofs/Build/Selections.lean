import RemoteUi.Proofs.Build.Books
import RemoteUi.Proofs.Build.Upheld
import RemoteUi.Proofs.Tree.Selections

/-!
# Selections that the server makes

The server selects an entry by a command like any other, and no such selection comes back to it as a
report of the user's.  Whatever a pass does and wherever it ends, it reports no selection; and when it
succeeds, each element presents the entry that was set last, and is ready to report the next change.

* §1 no step is heard of;
* §2 what the late lines do to the selected entries;
* §3 the theorem.
-/

namespace RemoteUi

open RemoteUi.Wire

namespace Build

variable {site s : Site} {node : Handle} {value : String}

/-! ## §1 Unheard steps -/

/-- The tree that an edit leaves is the tree of its answer. -/
theorem exists_of_treeAfter? {α : Type} {tree tree' : Tree} (act : Edit α)
    (h : Edit.treeAfter? act tree = some tree') : ∃ a, act tree = .ok a tree' := by
  unfold Edit.treeAfter? at h
  split at h
  · next a t hact =>
    cases h
    exact ⟨a, hact⟩
  · cases h

/-- **Nobody hears of an ordinary edit.** -/
theorem unheard_of_isOrdinary {call : Call} {tree tree' : Tree} (hcall : call.isOrdinary)
    (h : call.treeAfter? tree = some tree') : tree.Unheard tree' := by
  cases call with
  | createElement vocabulary tag id =>
    obtain ⟨a, h⟩ := exists_of_treeAfter? (Tree.createElement vocabulary tag id) h
    rw [Tree.createElement_eq] at h
    split at h
    · cases h
      have hpush : tree.Unheard (tree.push (.element { vocabulary, tag, id := some id })) :=
        Tree.unheard_push rfl
      exact ⟨hpush.selections, hpush.attribute?⟩
    · cases h
  | createText content =>
    obtain ⟨a, h⟩ := exists_of_treeAfter? (Tree.createText content) h
    cases h
    exact Tree.unheard_push rfl
  | append parent node carried =>
    obtain ⟨a, h⟩ := exists_of_treeAfter? (Tree.append parent node) h
    obtain ⟨-, -, rfl⟩ := Tree.eq_of_append h
    exact .of_element? (Tree.selections_detach tree node) fun n => by simp
  | remove parent node =>
    obtain ⟨a, h⟩ := exists_of_treeAfter? (Tree.remove parent node) h
    rw [Tree.remove_eq] at h
    split at h
    · cases h
      exact .of_element? (Tree.selections_detach tree node) fun n => by simp
    · cases h
  | setAttribute node key value =>
    obtain ⟨a, h⟩ := exists_of_treeAfter? (Tree.setAttribute node key value) h
    exact Tree.unheard_setAttribute (of_decide_eq_true hcall) h
  | removeAttribute node key =>
    obtain ⟨a, h⟩ := exists_of_treeAfter? (Tree.removeAttribute node key) h
    refine Tree.unheard_modifyElement h fun e => ?_
    rw [Dict.get?_erase, if_neg (of_decide_eq_true hcall)]
  | setProperty node key value => cases hcall
  | invoke node operation =>
    obtain ⟨a, h⟩ := exists_of_treeAfter? (Tree.invoke node operation) h
    unfold Tree.invoke at h
    split at h
    · exact Tree.unheard_modifyElement h fun _ => rfl
    · cases h
  | addListener node listener =>
    obtain ⟨a, h⟩ := exists_of_treeAfter? (Tree.addListener node listener) h
    exact Tree.unheard_modifyElement h fun _ => rfl

/-- What the setting of a selected entry does. -/
structure Selected (site : Site) (node : Handle) (value : String) (s : Site) : Prop where
  unheard : site.tree.Unheard s.tree
  books : s.builder = site.builder
  shape : site.tree.SameShape s.tree
  presents : s.tree.Presents node value
  element? : ∀ other, node ≠ other → s.tree.element? other = site.tree.element? other

/-- **The setting of a selected entry goes unheard, even if the host refuses it half-way.** -/
theorem leads_setQuietly (site : Site) (node : Handle) (value : String) :
    Leads (setQuietly node Tree.selectedIndexKey value) site
      (fun _ => Selected site node value) fun s => site.tree.Unheard s.tree := by
  refine Leads.bind (leads_edit_perform _ (Tree.atomic_setAttribute _ _ _) (fun _ t₁ h₁ => ?_)
    (.refl _)) fun _ s₁ hs₁ => hs₁
  have hunheard₁ : site.tree.Unheard t₁ := Tree.unheard_setAttribute (by decide) h₁
  refine Leads.bind (leads_edit_perform _ (Tree.atomic_setProperty _ _ _) (fun _ t₂ h₂ => ?_)
    hunheard₁) fun _ s₂ hs₂ => hs₂
  have hunheard₂ : site.tree.Unheard t₂ :=
    hunheard₁.trans (Tree.unheard_setProperty (Tree.isSuppressed_of_setAttribute h₁) h₂)
  refine leads_edit_perform _ (Tree.atomic_setAttribute _ _ _) (fun _ t₃ h₃ => ?_) hunheard₂
  exact ⟨hunheard₂.trans (Tree.unheard_setAttribute (by decide) h₃), rfl,
    Tree.sameShape_of_bracket h₁ h₂ h₃, Tree.presents_of_bracket h₁ h₂ h₃,
    fun other => Tree.element?_of_bracket h₁ h₂ h₃⟩

/-- **No builder is heard of.** -/
theorem upheld_unheard : Upheld Tree.Unheard where
  refl := .refl
  trans := .trans
  ordinary _ _ _ := unheard_of_isOrdinary
  quietly node value site :=
    ((leads_setQuietly site node value).imp (fun _ _ h => h.unheard) fun _ => id).siteAfter

/-! ## §2 Late lines -/

end Build

/-- The value to which a line sets the selected entry of a node. -/
def Site.selection? (site : Site) (node : Handle) (line : Line) : Option String :=
  match line.command with
  | .set id key value =>
    if key = Tree.selectedIndexKey ∧ site.resolve? id = some node then some (value.getD "")
    else none
  | _ => none

/-- The value to which lines set the selected entry of a node last. -/
def Site.lastSelection? (site : Site) (lines : List Line) (node : Handle) : Option String :=
  (lines.filterMap (site.selection? node)).getLast?

/-- Where ids denote the same nodes, lines set the same entries. -/
theorem Site.lastSelection?_congr {site s : Site} (h : ∀ id, s.resolve? id = site.resolve? id)
    (lines : List Line) (node : Handle) :
    s.lastSelection? lines node = site.lastSelection? lines node := by
  unfold lastSelection?
  congr 2
  funext line
  unfold selection?
  cases line.command <;> simp only [h]

theorem Site.lastSelection?_append (site : Site) (before after : List Line) (node : Handle) :
    site.lastSelection? (before ++ after) node =
      (site.lastSelection? after node).or (site.lastSelection? before node) := by
  rw [lastSelection?, List.filterMap_append, List.getLast?_append]
  rfl

theorem Site.lastSelection?_singleton (site : Site) (line : Line) (node : Handle) :
    site.lastSelection? [line] node = site.selection? node line := by
  unfold lastSelection?
  cases h : site.selection? node line <;> simp [h]

/-- Only late lines set selected entries. -/
theorem Site.lastSelection?_filter (site : Site) (lines : List Line) (node : Handle) :
    site.lastSelection? (lines.filter (·.isLate)) node = site.lastSelection? lines node := by
  unfold lastSelection?
  congr 1
  rw [List.filterMap_filter]
  refine List.filterMap_congr fun line _ => ?_
  split
  · rfl
  · next hlate =>
    unfold selection?
    unfold Line.isLate at hlate
    cases hc : line.command with
    | set id key value =>
      simp only [hc] at hlate
      have hkey : key ≠ Tree.selectedIndexKey := by
        rintro rfl
        exact hlate (by decide)
      simp [hkey]
    | window | create | remove => rfl

namespace Build

variable {site s s' : Site} {line : Line} {lines more : List Line}

/-- What late lines do to selected entries. -/
structure SetsEntries (site : Site) (lines : List Line) (s : Site) : Prop where
  books : s.builder = site.builder
  shape : site.tree.SameShape s.tree
  /-- Each of the lines names a node. -/
  resolved : ∀ line ∈ lines, ∀ id key value, line.command = .set id key value →
    (site.resolve? id).isSome
  selects : ∀ node value, site.lastSelection? lines node = some value →
    s.tree.Presents node value
  /-- An entry that is not set again stays. -/
  keeps : ∀ node value, site.lastSelection? lines node = none → site.tree.Presents node value →
    s.tree.Presents node value

theorem SetsEntries.resolve? (h : SetsEntries site lines s) (id : NodeId) :
    s.resolve? id = site.resolve? id := by
  have hlookup : s.host.tree.lookup? id = site.host.tree.lookup? id := h.shape.lookup? id
  simp only [Site.resolve?, h.books, hlookup]

theorem SetsEntries.append (h : SetsEntries site lines s) (hmore : SetsEntries s more s') :
    SetsEntries site (lines ++ more) s' where
  books := hmore.books.trans h.books
  shape := h.shape.trans hmore.shape
  resolved line hline id key value hc := by
    rcases List.mem_append.mp hline with hline | hline
    · exact h.resolved line hline id key value hc
    · rw [← h.resolve? id]
      exact hmore.resolved line hline id key value hc
  selects node value hlast := by
    rw [Site.lastSelection?_append, ← Site.lastSelection?_congr h.resolve? more] at hlast
    -- The later lines decide, if any of them sets the entry.
    cases hafter : s.lastSelection? more node with
    | some v =>
      rw [hafter, Option.some_or] at hlast
      exact hmore.selects node value (hafter.trans hlast)
    | none =>
      rw [hafter, Option.none_or] at hlast
      exact hmore.keeps node value hafter (h.selects node value hlast)
  keeps node value hlast hpresents := by
    rw [Site.lastSelection?_append, Option.or_eq_none_iff,
      ← Site.lastSelection?_congr h.resolve? more] at hlast
    exact hmore.keeps node value hlast.1 (h.keeps node value hlast.2 hpresents)

section Line

variable {id : NodeId} {key : String} {value : Option String} {node : Handle}

/-- The id of a line denotes a node. -/
theorem resolved_of_set (hc : line.command = .set id key value)
    (hr : site.resolve? id = some node) : ∀ l ∈ [line], ∀ id key value,
      l.command = .set id key value → (site.resolve? id).isSome := by
  rintro l hl id' key' value' hc'
  cases List.mem_singleton.mp hl
  cases hc.symm.trans hc'
  rw [hr]
  rfl

theorem Selected.setsEntries (hs : Selected site node (value.getD "") s)
    (hc : line.command = .set id Tree.selectedIndexKey value)
    (hr : site.resolve? id = some node) : SetsEntries site [line] s := by
  have hselection : ∀ n, site.lastSelection? [line] n =
      if node = n then some (value.getD "") else none := by
    intro n
    simp [Site.lastSelection?_singleton, Site.selection?, hc, hr]
  refine ⟨hs.books, hs.shape, resolved_of_set hc hr, fun n v hlast => ?_,
    fun n v hlast hpresents => ?_⟩
  · rw [hselection] at hlast
    split at hlast
    · next hn =>
      cases hlast
      exact hn ▸ hs.presents
    · cases hlast
  · rw [hselection] at hlast
    split at hlast
    · cases hlast
    · next hn => exact hpresents.of_element? (hs.element? n hn)

/-- An operation sets no entry. -/
theorem setsEntries_of_invoke (hc : line.command = .set id key value)
    (hkey : key ≠ Tree.selectedIndexKey) (hr : site.resolve? id = some node) {tree : Tree}
    (htree : Tree.invoke node key site.tree = .ok () tree) (call : Call) :
    SetsEntries site [line] { site with host := { site.host.noted call with tree } } := by
  have hselection : ∀ n, site.lastSelection? [line] n = none := by
    intro n
    simp [Site.lastSelection?_singleton, Site.selection?, hc, hkey]
  refine ⟨rfl, Tree.sameShape_invoke htree, resolved_of_set hc hr, fun n v hlast => ?_,
    fun n v _ hpresents => ?_⟩
  · rw [hselection] at hlast
    cases hlast
  · unfold Tree.invoke at htree
    split at htree
    · exact hpresents.modifyElement htree fun _ => ⟨rfl, rfl⟩
    · cases htree

end Line

/-- **A late line sets the selected entry of the node that it names, or of none.** -/
theorem leads_performLate_setsEntries (hlate : line.isLate) :
    Leads (performLate line) site (fun _ => SetsEntries site [line]) fun _ => True := by
  unfold Line.isLate at hlate
  cases hc : line.command with
  | window | create | remove =>
    simp only [hc] at hlate
    cases hlate
  | set id key value =>
    simp only [hc] at hlate
    have hkey : key = "selectedIndex" ∨ key = "sizeToContent" := by
      simpa [lateKeys] using hlate
    rw [performLate_of_set hc]
    apply leads_resolve_bind trivial
    intro node hr
    rcases hkey with rfl | rfl
    · rw [if_neg (by decide), if_neg (by decide), if_neg (by decide), if_pos (by decide)]
      exact (leads_setQuietly site node _).imp (fun _ s hs => hs.setsEntries hc hr)
        fun _ _ => trivial
    · rw [if_neg (by decide), if_neg (by decide), if_pos (by decide)]
      exact leads_edit_perform _ (Tree.atomic_invoke _ _)
        (fun _ tree htree => setsEntries_of_invoke hc (by decide) hr htree _) trivial

/-- **Late lines set what the last of them says.** -/
theorem setsEntries_of_late (hlate : ∀ line ∈ lines, line.isLate)
    (h : lines.forM (fun line => onLine line (performLate line)) site = .ok () s) :
    SetsEntries site lines s := by
  have hleads : Leads (lines.forM fun line => onLine line (performLate line)) site
      (fun _ s => ∃ done, lines = done ++ [] ∧ SetsEntries site done s) fun _ => True := by
    refine leads_forM (fun rest s => ∃ done, lines = done ++ rest ∧ SetsEntries site done s) ?_ ?_
    · rintro line rest s ⟨done, hlines, hdone⟩
      have hline : line.isLate := hlate line (by simp [hlines])
      refine (Leads.onLine ((leads_performLate_setsEntries hline).mono fun _ s' hs' => ?_) line)
      exact ⟨done ++ [line], by simp [hlines], hdone.append hs'⟩
    · refine ⟨[], rfl, rfl, .refl _, nofun, nofun, fun _ _ _ => id⟩
  obtain ⟨done, hlines, hdone⟩ := hleads.of_ok h
  rw [List.append_nil] at hlines
  exact hlines ▸ hdone

end Build

/-! ## §3 The theorem -/

open Build in
/-- A pass that succeeds carries out the late lines when everything else is done. -/
theorem Builder.setsEntries_of_run {builder : Builder} {host : Host} {reply : Reply}
    (h : (builder.run host reply).1 = .ok ()) :
    ∃ t s, groundwork reply.lines ⟨builder, host⟩ = .ok () t ∧
      SetsEntries (t.withLate []) (reply.lines.filter (·.isLate)) s ∧
      s.tree = (builder.run host reply).2.2.tree := by
  unfold Builder.run at h ⊢
  rw [pass_eq] at h ⊢
  cases hground : groundwork reply.lines ⟨builder, host⟩ with
  | error fault t =>
    rw [bind_of_error hground] at h
    cases h
  | ok u t =>
    rw [bind_of_ok hground] at h ⊢
    have hfinish : finish t = ((reply.lines.filter (·.isLate)).forM (fun line =>
        onLine line (performLate line)) >>= fun _ =>
          remember fun builder => { builder with created := ∅ }) (t.withLate []) := by
      rw [← late_of_groundwork hground]
      rfl
    rw [hfinish] at h ⊢
    cases hlate : (reply.lines.filter (·.isLate)).forM (fun line =>
        onLine line (performLate line)) (t.withLate []) with
    | error fault s =>
      rw [bind_of_error hlate] at h
      cases h
    | ok u s =>
      rw [bind_of_ok hlate]
      exact ⟨t, s, rfl, setsEntries_of_late (fun line hline => (List.mem_filter.mp hline).2) hlate,
        rfl⟩

open Build in
/-- **Selections that the server makes do not come back to it.**  A run, whatever comes of it, reports
no selection and changes no attribute with the name of the selected entry.  If it succeeds, each line
that sets a selected entry names a node, as ids stand when everything but the late lines is done; such
a node presents the entry to which it was set last in the order of the reply, and the next change of
the entry is reported. -/
theorem Builder.run_quietly (builder : Builder) (host : Host) (reply : Reply) :
    host.tree.Unheard (builder.run host reply).2.2.tree ∧
    ((builder.run host reply).1 = .ok () →
      ∃ t, groundwork reply.lines ⟨builder, host⟩ = .ok () t ∧
        (∀ line ∈ reply.lines, ∀ id value,
          line.command = .set id Tree.selectedIndexKey value → ∃ node, t.resolve? id = some node) ∧
        ∀ node value, t.lastSelection? reply.lines node = some value →
          (builder.run host reply).2.2.tree.Presents node value ∧
          ∀ next, ∃ tree, Tree.setProperty node Tree.selectedIndexKey next
              (builder.run host reply).2.2.tree = .ok () tree ∧
            tree.selections = (builder.run host reply).2.2.tree.selections ++ [node]) := by
  refine ⟨upheld_unheard.run builder host reply, fun hok => ?_⟩
  obtain ⟨t, s, hground, hs, htree⟩ := setsEntries_of_run hok
  refine ⟨t, hground, fun line hline id value hc => ?_, fun node value hlast => ?_⟩
  · have hlate : line.isLate := by
      simp only [Line.isLate, hc]
      decide
    exact Option.isSome_iff_exists.mp
      (hs.resolved line (List.mem_filter.mpr ⟨hline, hlate⟩) id _ value hc)
  · rw [← Site.lastSelection?_filter] at hlast
    have hpresents := hs.selects node value hlast
    rw [htree] at hpresents
    exact ⟨hpresents, hpresents.reported⟩

/-- Whether a run succeeds can be found out by running it. -/
theorem Builder.ok_of_faultOfRun? {builder : Builder} {host : Host} {reply : Reply}
    (h : (builder.faultOfRun? host reply).isNone) : (builder.run host reply).1 = .ok () := by
  unfold faultOfRun? at h
  cases hrun : (builder.run host reply).1 with
  | ok u => rfl
  | error fault =>
    rw [hrun] at h
    cases h

/-- A list whose entry is set before the list is there, which is told to keep quiet, and whose entry is
set once more, to none. -/
def listSelections : Reply :=
  ⟨"", [(Command.set "l" "selectedIndex" (some "1")).toLine, (Command.window "w").toLine,
    (Command.create "l" "listbox" (some "w")).toLine,
    (Command.set "l" "suppressonselect" (some "true")).toLine,
    (Command.set "l" "selectedIndex" none).toLine]⟩

open Build in
theorem Builder.run_quietly_listSelections :
    (Builder.new.run { tree := .new } listSelections).1 = .ok () ∧
      ∃ t, groundwork listSelections.lines ⟨Builder.new, { tree := .new }⟩ = .ok () t ∧
        t.lastSelection? listSelections.lines 1 = some "" ∧
        (Builder.new.run { tree := .new } listSelections).2.2.tree.Presents 1 "" := by
  have hok : (Builder.new.run { tree := .new } listSelections).1 = .ok () :=
    Builder.ok_of_faultOfRun? (by decide +kernel)
  obtain ⟨t, hground, -, hlast⟩ := (Builder.run_quietly Builder.new _ _).2 hok
  obtain rfl : siteAfter (groundwork listSelections.lines) ⟨Builder.new, { tree := .new }⟩ = t :=
    siteAfter_of_ok hground
  have hvalue : (siteAfter (groundwork listSelections.lines)
      ⟨Builder.new, { tree := .new }⟩).lastSelection? listSelections.lines 1 = some "" := by
    decide +kernel
  exact ⟨hok, _, hground, hvalue, (hlast 1 "" hvalue).1⟩

end RemoteUi
