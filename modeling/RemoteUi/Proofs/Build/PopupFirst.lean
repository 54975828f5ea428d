import RemoteUi.Proofs.Build.Popups

/-!
# A popup goes before its owner

The journal of a pass, with its faults and refusals, tells that no menu is put anywhere before its
first popup is in it.

* §1 seemly placements, and journals that are made of them;
* §2 every placement that a pass asks for is seemly;
* §3 the journal at every stage, and after a fault;
* §4 the theorem.
-/

namespace RemoteUi

open RemoteUi.Wire

variable {start : Site} {lines : List Line} {s s' : Stage} {id : NodeId} {node parent : Handle}
  {nc nc' : Newcomer} {calls : List Call} {carried : List Handle}

/-! ## §1 Journals -/

/-- The nodes that calls put somewhere. -/
def placedNodes (calls : List Call) : List Handle := (calls.filterMap Call.placement?).map (·.2.1)

/-- A placement is seemly: an owner goes nowhere without its first popup, and a popup goes nowhere
but into its owner. -/
structure Seemly (start : Site) (lines : List Line) (news : List Newcomer) (parent node : Handle)
    (carried : List Handle) : Prop where
  first : ∀ nc id, (nc, node) ∈ born start.tree.slots.size (newcomers lines) → nc.id? = some id →
    nc.ownsPopup → ∀ popup, (newcomers lines).find? (·.isPopupOf id) = some popup →
      ∃ n ∈ carried, (popup, n) ∈ born start.tree.slots.size news
  home : ∀ nc id, (nc, node) ∈ born start.tree.slots.size (newcomers lines) → nc.isPopupOf id →
    id ∈ newIds (newcomers lines) →
      ∃ owner, (owner, parent) ∈ born start.tree.slots.size news ∧ owner.id? = some id

/-- The placements among some calls are seemly, and none is of a node that had one. -/
structure Tidy (start : Site) (lines : List Line) (news : List Newcomer) (calls : List Call) :
    Prop where
  seemly : ∀ p n c, .append p n c ∈ calls → Seemly start lines news p n c
  once : (placedNodes calls).Nodup

/-- What holds of the calls of a pass up to a stage. -/
structure Proper (start : Site) (lines : List Line) (s : Stage) (calls : List Call) : Prop
    extends Tidy start lines s.news calls where
  /-- What was put somewhere is a newcomer that does not wait any longer. -/
  placed : ∀ n ∈ placedNodes calls, n < s.tree.slots.size ∧ ∀ e ∈ s.waiting, e.node ≠ n

theorem Seemly.mono {news more : List Newcomer} (h : Seemly start lines news parent node carried)
    (hmore : news <+: more) : Seemly start lines more parent node carried where
  first nc id hborn hid howns popup hfind := by
    obtain ⟨n, hn, hpopup⟩ := h.first nc id hborn hid howns popup hfind
    exact ⟨n, hn, mem_born_of_isPrefix hmore hpopup⟩
  home nc id hborn hpopup hid := by
    obtain ⟨owner, howner, hown⟩ := h.home nc id hborn hpopup hid
    exact ⟨owner, mem_born_of_isPrefix hmore howner, hown⟩

theorem placedNodes_snoc_append (calls : List Call) (p n : Handle) (c : List Handle) :
    placedNodes (calls ++ [.append p n c]) = placedNodes calls ++ [n] := by
  simp [placedNodes, Call.placement?]

theorem placedNodes_snoc {call : Call} (calls : List Call) (h : call.placement? = none) :
    placedNodes (calls ++ [call]) = placedNodes calls := by
  simp [placedNodes, h]

namespace Tidy

variable {news : List Newcomer}

/-- A call that puts nothing anywhere. -/
theorem snoc (h : Tidy start lines news calls) {call : Call} (hcall : call.placement? = none) :
    Tidy start lines news (calls ++ [call]) where
  seemly p n c hmem := by
    rcases List.mem_append.mp hmem with hmem | hmem
    · exact h.seemly p n c hmem
    · rw [← List.mem_singleton.mp hmem] at hcall
      cases hcall
  once := by
    rw [placedNodes_snoc calls hcall]
    exact h.once

/-- A seemly placement of a node that was put nowhere yet. -/
theorem snoc_append (h : Tidy start lines news calls)
    (hseemly : Seemly start lines news parent node carried) (hnew : node ∉ placedNodes calls) :
    Tidy start lines news (calls ++ [.append parent node carried]) where
  seemly p n c hmem := by
    rcases List.mem_append.mp hmem with hmem | hmem
    · exact h.seemly p n c hmem
    · cases List.mem_singleton.mp hmem
      exact hseemly
  once := by
    rw [placedNodes_snoc_append, ← List.concat_eq_append]
    exact h.once.concat hnew

end Tidy

namespace Proper

/-- A stage at which no placed node waits again. -/
theorem mono (h : Proper start lines s calls) (hnews : s.news <+: s'.news)
    (hsize : s.tree.slots.size ≤ s'.tree.slots.size)
    (hwaiting : ∀ e' ∈ s'.waiting, (∃ e ∈ s.waiting, e'.node = e.node) ∨
      s.tree.slots.size ≤ e'.node) : Proper start lines s' calls where
  seemly p n c hmem := (h.seemly p n c hmem).mono hnews
  once := h.once
  placed n hn := by
    obtain ⟨hlt, hnot⟩ := h.placed n hn
    refine ⟨Nat.lt_of_lt_of_le hlt hsize, fun e' he' heq => ?_⟩
    -- What waits did so before, or it is newer than everything that was placed.
    rcases hwaiting e' he' with ⟨e, he, hnode⟩ | hge
    · exact hnot e he (hnode.symm.trans heq)
    · exact absurd hlt (Nat.not_lt.mpr (heq ▸ hge))

/-- An element that waits was put nowhere yet. -/
theorem not_mem_of_waiting (h : Proper start lines s calls) {e : Held} (he : e ∈ s.waiting) :
    e.node ∉ placedNodes calls :=
  fun hmem => (h.placed e.node hmem).2 e he rfl

theorem snoc (h : Proper start lines s calls) {call : Call} (hcall : call.placement? = none) :
    Proper start lines s (calls ++ [call]) where
  toTidy := h.toTidy.snoc hcall
  placed := by
    rw [placedNodes_snoc calls hcall]
    exact h.placed

theorem snoc_append (h : Proper start lines s calls)
    (hseemly : Seemly start lines s.news parent node carried) (hnew : node ∉ placedNodes calls)
    (hlt : node < s.tree.slots.size) (hwaiting : ∀ e ∈ s.waiting, e.node ≠ node) :
    Proper start lines s (calls ++ [.append parent node carried]) where
  toTidy := h.toTidy.snoc_append hseemly hnew
  placed n hn := by
    rw [placedNodes_snoc_append] at hn
    rcases List.mem_append.mp hn with hn | hn
    · exact h.placed n hn
    · rw [List.mem_singleton.mp hn]
      exact ⟨hlt, hwaiting⟩

end Proper

/-! ## §2 Placements -/

section Placements

variable (hsound : Sound start s) (hown : OwnIds start.builder start.tree lines)
  (hnews : s.news <+: newcomers lines) (h : Popups start lines s)
include hsound hnews

/-- The newcomer at the node of an element that waits. -/
theorem Sound.eq_of_waiting_lines {e : Held} (he : e ∈ s.waiting)
    (hborn : (nc, e.node) ∈ born start.tree.slots.size (newcomers lines)) :
    (nc, e.node) ∈ s.born start ∧ ∃ tag, nc = .element e.id tag e.parent := by
  obtain ⟨tag, hself⟩ := hsound.waiting e he
  obtain rfl := eq_of_mem_born hborn (mem_born_of_isPrefix hnews hself)
  exact ⟨hself, tag, rfl⟩

include hown h

/-- **An element that waits is put into a seemly place.** -/
theorem Popups.seemly_of_fit {e : Held} (hfit : Fit start lines s e parent) :
    Seemly start lines s.news parent e.node (s.tree.children e.node) where
  first nc id hborn hid howns popup hfind := by
    obtain ⟨hself, tag, rfl⟩ := hsound.eq_of_waiting_lines hnews hfit.mem hborn
    obtain rfl : e.id = id := Option.some.inj hid
    have hchild : ∀ n, s.tree.parent? n = some e.node → n ∈ s.tree.children e.node :=
      fun n hp => (hsound.descends.anchored.mem_children_iff e.node n).mpr hp
    cases hawaits : e.awaits with
    | parent =>
      -- It was released by its first popup.
      obtain ⟨first, n, hfirst, hbornFirst, hp⟩ := h.released e hfit.mem hawaits _ hself howns
      obtain rfl := Option.some.inj ((find?_of_isPrefix hnews hfirst).symm.trans hfind)
      exact ⟨n, hchild n hp, hbornFirst⟩
    | popup =>
      -- All commands are done, and nothing waits for what is there.
      rcases hfit.ready with hready | ⟨hdone, hclear⟩
      · rw [hawaits] at hready
        cases hready
      · obtain ⟨n, hbornPopup⟩ := exists_of_mem start.tree.slots.size
          (List.mem_of_find?_eq_some hfind)
        rw [← hdone] at hbornPopup
        have hpopup : popup.isPopupOf e.id := by simpa using List.find?_some hfind
        rcases h.awaiting e hfit.mem hawaits popup n hbornPopup hpopup with hp | ⟨e', he', rfl⟩
        · exact ⟨n, hchild n hp, hbornPopup⟩
        · have hnone := hclear e' he' (h.awaits_of_isPopupOf he' hbornPopup hpopup)
          rw [hsound.parent_of_isPopupOf he' hbornPopup hpopup] at hnone
          change s.site.resolve? e.id = none at hnone
          rw [h.resolve?_waiting hsound hnews hfit.mem] at hnone
          cases hnone
  home nc id hborn hpopup hid := by
    obtain ⟨hself, -⟩ := hsound.eq_of_waiting_lines hnews hfit.mem hborn
    have hb := hfit.bears
    rw [hsound.parent_of_isPopupOf hfit.mem hself hpopup, Option.getD_some] at hb
    exact h.newcomer_of_bears hsound hown hid hb

omit hown h in
/-- **A popup is put into its owner.** -/
theorem Entry.seemly {owner popup : Held} (hentry : Entry start s owner popup) :
    Seemly start lines s.news owner.node popup.node carried := by
  obtain ⟨nc₀, hborn₀, -, hpopup₀⟩ := hentry.tag
  refine { first := ?first, home := ?home }
  case first =>
    intro nc id hborn hid howns
    -- A popup owns none.
    obtain rfl := eq_of_mem_born hborn (mem_born_of_isPrefix hnews hborn₀)
    rw [Newcomer.ownsPopup_of_isPopupOf hpopup₀] at howns
    cases howns
  case home =>
    intro nc id hborn hpopup hid
    obtain rfl := eq_of_mem_born hborn (mem_born_of_isPrefix hnews hborn₀)
    rw [Newcomer.eq_of_isPopupOf hpopup hpopup₀]
    obtain ⟨tag, howner⟩ := hsound.waiting owner hentry.mem_owner
    exact ⟨_, howner, rfl⟩

omit hown h hnews in
/-- A text is put anywhere. -/
theorem Sound.seemly_text {content : String} {news : List Newcomer}
    (hnews : s.news ++ [.text id content] <+: newcomers lines) :
    Seemly start lines news parent s.tree.slots.size carried := by
  have hself : (Newcomer.text id content, s.tree.slots.size) ∈
      born start.tree.slots.size (newcomers lines) :=
    mem_born_of_isPrefix hnews (mem_born_append_singleton.mpr (.inr ⟨rfl, hsound.size⟩))
  refine { first := ?first, home := ?home }
  case first =>
    intro nc id' hborn hid
    obtain rfl := eq_of_mem_born hborn hself
    cases hid
  case home =>
    intro nc id' hborn hpopup
    obtain rfl := eq_of_mem_born hborn hself
    cases hpopup

end Placements

/-! ## §3 The journal of a pass -/

/-- **The journal goes on with seemly placements only**, at every step. -/
theorem Proper.step (hsound : Sound start s) (hown : OwnIds start.builder start.tree lines)
    (hnews : s.news <+: newcomers lines) (hpopups : Popups start lines s)
    (hjournal : s.site.host.journal = start.host.journal ++ calls) (h : Proper start lines s calls)
    (hstep : Step start lines s s') :
    ∃ calls', s'.site.host.journal = start.host.journal ++ calls' ∧
      Proper start lines s' calls' := by
  have hsnoc : ∀ call, s.site.host.journal ++ [call] = start.host.journal ++ (calls ++ [call]) := by
    intro call
    rw [hjournal, List.append_assoc]
  cases hstep with
  | quiet host call hshape hcall hnote =>
    refine ⟨calls ++ [call], hnote.trans (hsnoc call), Proper.snoc ?_ hcall⟩
    exact h.mono List.prefix_rfl (Nat.le_of_eq hshape.size.symm) fun e he => .inl ⟨e, he, rfl⟩
  | jot builder hwindow hcreated =>
    exact ⟨calls, hjournal, h.mono List.prefix_rfl (Nat.le_refl _) fun e he => .inl ⟨e, he, rfl⟩⟩
  | name id hwindow hline =>
    exact ⟨calls, hjournal, h.mono List.prefix_rfl (Nat.le_refl _) fun e he => .inl ⟨e, he, rfl⟩⟩
  | bring line id tag word hmore =>
    refine ⟨_, hsnoc _, Proper.snoc ?_ rfl⟩
    apply h.mono (List.prefix_append ..) (by simp [Stage.tree])
    intro e he
    rcases List.mem_append.mp he with he | he
    · exact .inl ⟨e, he, rfl⟩
    · rw [List.mem_singleton.mp he]
      exact .inr (Nat.le_refl _)
  | place before after e p hwaiting hfit hfirst hopen =>
    refine ⟨_, hsnoc _, Proper.snoc_append ?_ ?_ (h.not_mem_of_waiting hfit.mem) ?_ ?_⟩
    · refine h.mono List.prefix_rfl (by simp [Stage.tree]) fun e' he' => .inl ⟨e', ?_, rfl⟩
      exact mem_of_mem_place hwaiting he'
    · exact hpopups.seemly_of_fit hsound hown hnews hfit
    · rw [Stage.tree, Site.tree_attach, Tree.size_attachLast]
      exact (hsound.loose_of_waiting hfit.mem).lt
    · exact fun e' he' => ne_of_mem_place hsound.nodup hwaiting he'
  | enter before after owner popup hwaiting hentry hopen =>
    refine ⟨_, hsnoc _, Proper.snoc_append ?_ ?_ (h.not_mem_of_waiting hentry.mem_popup) ?_ ?_⟩
    · refine h.mono List.prefix_rfl (by simp [Stage.tree]) fun e' he' => .inl ?_
      obtain ⟨e₀, he₀, -, hnode, -⟩ := exists_of_mem_enter hwaiting he'
      exact ⟨e₀, he₀, hnode⟩
    · exact hentry.seemly hsound hnews
    · rw [Stage.tree, Site.tree_attach, Tree.size_attachLast]
      exact (hsound.loose_of_waiting hentry.mem_popup).lt
    · exact fun e' he' => ne_of_mem_enter hsound.nodup hwaiting he'
  | text id content p hmore hclear hresolve hopen =>
    refine ⟨calls ++ [.createText content] ++ [.append p s.tree.slots.size
      ((s.site.write content).tree.children s.tree.slots.size)], ?_,
      Proper.snoc_append (Proper.snoc ?_ rfl) ?_ ?_ ?_ ?_⟩
    · show s.site.host.journal ++ [.createText content] ++ [_] = _
      rw [hsnoc, List.append_assoc]
    · exact h.mono (List.prefix_append ..) (by simp [Stage.tree]) fun e he => .inl ⟨e, he, rfl⟩
    · exact hsound.seemly_text hmore
    · -- The node of the text is new, so nothing was done to it yet.
      rw [placedNodes_snoc calls rfl]
      exact fun hmem => Nat.lt_irrefl _ (h.placed _ hmem).1
    · simp [Stage.tree]
    · exact fun e he => Nat.ne_of_lt (hsound.loose_of_waiting he).lt
  | remove id p node hline hlookup hparent =>
    refine ⟨_, hsnoc _, Proper.snoc ?_ rfl⟩
    exact h.mono List.prefix_rfl (by simp [Stage.tree]) fun e he => .inl ⟨e, he, rfl⟩

theorem Reached.proper (hstart : Standing start.builder start.tree)
    (hown : OwnIds start.builder start.tree lines) (h : Reached start lines s) :
    ∃ calls, s.site.host.journal = start.host.journal ++ calls ∧ Proper start lines s calls := by
  induction h with
  | start =>
    refine ⟨[], (List.append_nil _).symm, ⟨fun p n c hmem => ?_, List.nodup_nil⟩, fun n hn => ?_⟩
    · cases hmem
    · cases hn
  | step hr hstep ih =>
    obtain ⟨calls, hjournal, hproper⟩ := ih
    exact hproper.step (hr.sound hstart) hown hr.isPrefix (hr.popups hstart hown) hjournal hstep

/-- A refused edit is noted too, and it would have been seemly. -/
theorem Slip.tidy {host : Host} (hstart : Standing start.builder start.tree)
    (hown : OwnIds start.builder start.tree lines) (hreached : Reached start lines s)
    (h : Slip start lines s host) :
    ∃ calls, host.journal = start.host.journal ++ calls ∧ Tidy start lines s.news calls := by
  obtain ⟨calls, hjournal, hproper⟩ := hreached.proper hstart hown
  have hsound := hreached.sound hstart
  have hsnoc : ∀ call, s.site.host.journal ++ [call] = start.host.journal ++ (calls ++ [call]) := by
    intro call
    rw [hjournal, List.append_assoc]
  cases h with
  | still => exact ⟨calls, hjournal, hproper.toTidy⟩
  | refused call hcall => exact ⟨_, hsnoc call, hproper.toTidy.snoc hcall⟩
  | place e p hfit =>
    have hseemly := (hreached.popups hstart hown).seemly_of_fit hsound hown hreached.isPrefix hfit
    exact ⟨_, hsnoc _, hproper.toTidy.snoc_append hseemly (hproper.not_mem_of_waiting hfit.mem)⟩
  | enter owner popup hentry =>
    exact ⟨_, hsnoc _, hproper.toTidy.snoc_append (hentry.seemly hsound hreached.isPrefix)
      (hproper.not_mem_of_waiting hentry.mem_popup)⟩
  | text id content p hmore =>
    refine ⟨calls ++ [.createText content] ++ [.append p s.tree.slots.size []], ?_,
      (hproper.toTidy.snoc rfl).snoc_append (hsound.seemly_text hmore) ?_⟩
    · show s.site.host.journal ++ [.createText content] ++ [_] = _
      rw [hsnoc, List.append_assoc]
    · rw [placedNodes_snoc calls rfl]
      exact fun hmem => Nat.lt_irrefl _ (hproper.placed _ hmem).1

/-- A fault leaves the elements as they are at its stage. -/
theorem Slip.kind? {host : Host} (h : Slip start lines s host) (n : Handle) :
    host.tree.kind? n = s.tree.kind? n := by
  cases h with
  | still => rfl
  | refused call hcall => rfl
  | place e p hfit => rfl
  | enter owner popup hentry => rfl
  | text id content p hmore =>
    refine (Tree.kind?_push ..).trans ?_
    split
    · next heq =>
      cases hkind : s.tree.kind? n with
      | none => rfl
      | some kind => exact absurd (Tree.lt_of_kind? hkind) (Nat.not_lt.mpr (Nat.le_of_eq heq.symm))
    · rfl

/-! ## §4 The theorem -/

/-- The calls of a pass put no owner of popups anywhere before its first popup is in it.  An owner or
a popup is known by its id in the tree after the pass. -/
structure PopupsFirst (before : Tree) (lines : List Line) (after : Tree) (calls : List Call) :
    Prop where
  /-- A new menu goes nowhere unless its first popup, if it has one, is among its children. -/
  first : ∀ parent node carried, .append parent node carried ∈ calls → before.slots.size ≤ node →
    ∀ id tag, after.id? node = some id → after.tag? node = some tag → tag ∈ popupOwnerTags →
      ∀ popup, (newcomers lines).find? (·.isPopupOf id) = some popup →
        ∃ n ∈ carried, before.slots.size ≤ n ∧ after.id? n = popup.id?
  /-- No node is put anywhere twice. -/
  once : (placedNodes calls).Nodup
  /-- A popup of a new element goes nowhere but into this element. -/
  home : ∀ parent node carried, .append parent node carried ∈ calls → before.slots.size ≤ node →
    ∀ popup ∈ newcomers lines, after.id? node = popup.id? →
      ∀ id ∈ newIds (newcomers lines), popup.isPopupOf id →
        before.slots.size ≤ parent ∧ after.id? parent = some id
  /-- An id is that of one new node, so it is one menu and one popup that this speaks of. -/
  unique : ∀ m n id, before.slots.size ≤ m → before.slots.size ≤ n → after.id? m = some id →
    after.id? n = some id → m = n

theorem Tidy.popupsFirst (hsound : Sound start s) (hown : OwnIds start.builder start.tree lines)
    (hnews : s.news <+: newcomers lines) (h : Tidy start lines s.news calls) :
    PopupsFirst start.tree lines s.tree calls where
  first p node carried hmem hle id tag hid htag howns popup hfind := by
    obtain ⟨nc, hborn, hncid⟩ := hsound.born_of_id? hle hid
    -- The tree shows the tag of the newcomer.
    have hself : nc.ownsPopup := by
      have hshows := hsound.shows nc node hborn
      cases nc with
      | element id' tag' word =>
        have hkind : s.tree.kind? node = some (some id', Vocabulary.resolve tag') := hshows
        rw [Tree.tag?_eq, hkind] at htag
        obtain rfl : (Vocabulary.resolve tag').2 = tag := Option.some.inj htag
        exact List.contains_iff_mem.mpr howns
      | text below content => cases hncid
    obtain ⟨n, hn, hpopup⟩ := (h.seemly p node carried hmem).first nc id
      (mem_born_of_isPrefix hnews hborn) hncid hself popup hfind
    have hisPopup : popup.isPopupOf id := by simpa using List.find?_some hfind
    obtain ⟨pid, ptag, rfl, -⟩ := Newcomer.isPopupOf_iff.mp hisPopup
    exact ⟨n, hn, le_of_mem_born hpopup, hsound.id?_of_born hpopup rfl⟩
  once := h.once
  home p node carried hmem hle popup hpopup hid id hnew hisPopup := by
    obtain ⟨pid, ptag, rfl, -⟩ := Newcomer.isPopupOf_iff.mp hisPopup
    obtain ⟨nc, hborn, hncid⟩ := hsound.born_of_id? hle hid
    -- The node is the popup, since there is one newcomer to an id.
    obtain ⟨n, hn⟩ := exists_of_mem start.tree.slots.size hpopup
    have hborn' := mem_born_of_isPrefix hnews hborn
    obtain rfl := node_eq_of_id? hown.nodup hn rfl hborn' hncid
    obtain ⟨owner, howner, hownid⟩ := (h.seemly p n carried hmem).home _ id hn hisPopup hnew
    exact ⟨le_of_mem_born howner, hsound.id?_of_born howner hownid⟩
  unique m n id hm hn :=
    hsound.eq_of_id? (nodup_newIds_of_isPrefix hnews hown.nodup) hm hn

/-- **A popup goes before its owner.**  Whatever the commands of a pass are, whatever the host
refuses and however the pass ends: if the new ids are no other node's, a menu is put nowhere before
its first popup is in it, nothing is put anywhere twice, and a popup goes nowhere but into its
menu. -/
theorem run_popup_first {builder : Builder} {host : Host} {reply : Reply}
    (hreach : Reachable builder host.tree) (hown : OwnIds builder host.tree reply.lines) :
    ∃ calls, (builder.run host reply).2.2.journal = host.journal ++ calls ∧
      PopupsFirst host.tree reply.lines (builder.run host reply).2.2.tree calls := by
  obtain ⟨s, hreached, -, hslip, -⟩ := Builder.run_stage reply hreach.standing
  obtain ⟨calls, hjournal, htidy⟩ := hslip.tidy hreach.standing hown hreached
  have hfirst := htidy.popupsFirst (hreached.sound hreach.standing) hown hreached.isPrefix
  have hid : ∀ n, (builder.run host reply).2.2.tree.id? n = s.tree.id? n := by
    intro n
    rw [Tree.id?_eq, Tree.id?_eq, hslip.kind?]
  have htag : ∀ n, (builder.run host reply).2.2.tree.tag? n = s.tree.tag? n := by
    intro n
    rw [Tree.tag?_eq, Tree.tag?_eq, hslip.kind?]
  refine ⟨calls, hjournal, ?_, hfirst.once, ?_, ?_⟩
  · simp only [hid, htag]
    exact hfirst.first
  · simp only [hid]
    exact hfirst.home
  · simp only [hid]
    exact hfirst.unique

/-- A menu comes before its popup and before its box, which a fault leaves without a place. -/
theorem run_popup_first_menu :
    ∃ reply : Reply, reply.lines =
        [(Command.create "m" "menu" (some "b")).toLine,
          (Command.create "b" "box" (some "w")).toLine,
          (Command.create "p" "menupopup" (some "m")).toLine,
          (Command.create "q" "menupopup" (some "m")).toLine,
          (Command.remove "nowhere").toLine] ∧
      ∃ calls, (Builder.new.run { tree := .new } reply).2.2.journal = calls ∧
        PopupsFirst Tree.new reply.lines (Builder.new.run { tree := .new } reply).2.2.tree
          calls := by
  have hreach : Reachable Builder.new ({ tree := .new } : Host).tree := .new
  refine ⟨⟨"", _⟩, rfl, ?_⟩
  refine run_popup_first hreach { toFreshIds := .of_new ?_ ?_, names := fun id _ line hline => ?_ }
  · decide +kernel
  · decide +kernel
  · simp only [List.mem_cons, List.not_mem_nil, or_false] at hline
    rcases hline with rfl | rfl | rfl | rfl | rfl <;>
      simp [Command.toLine, Line.command, windowTag]

end RemoteUi
