import RemoteUi.Client.Report
import RemoteUi.Proofs.Text.Spelling
import RemoteUi.Proofs.Tree.History

/-!
# What interactions count for

An interaction counts for one element of the window and is reported as an event of this element.
Which one it is, and what the event tells, is said here by rules about the tree that search for
nothing: the owner of a menu item is the nearest one, an entry has its position because it stands in
one place only, and an index is whatever a text shows.

* §1 the owners of menu items;
* §2 positions and selected entries;
* §3 the rules;
* §4 the theorem.
-/

namespace RemoteUi

open RemoteUi.Text RemoteUi.Wire

namespace Tree

variable {tree : Tree} {node other item owner parent : Handle}

/-! ## §1 Owners -/

/-- On the way up from `node` one comes by `other` after at least one step. -/
def Below (tree : Tree) : (node other : Handle) → Prop :=
  Relation.TransGen fun child parent => tree.parent? child = some parent

/-- An element that owns the menu items below it. -/
def IsOwner (tree : Tree) (node : Handle) : Prop :=
  tree.tag? node = some "menu" ∨ tree.tag? node = some "button" ∨
    tree.tag? node = some "menulist"

/-- The owner of a menu item is the nearest one. -/
structure Owns (tree : Tree) (owner item : Handle) : Prop where
  below : tree.Below item owner
  isOwner : tree.IsOwner owner
  /-- Any other owner that the item is below is an owner above this one. -/
  nearest : ∀ other, tree.Below item other → tree.IsOwner other → tree.Upward owner other

/-- What is above a node is its parent, or above that. -/
theorem below_iff_of_parent? (h : tree.parent? node = some parent) :
    tree.Below node other ↔ tree.Upward parent other := by
  rw [Below, Relation.TransGen.head'_iff]
  constructor
  · rintro ⟨p, hp, hup⟩
    obtain rfl : parent = p := Option.some.inj (h.symm.trans hp)
    exact hup
  · exact fun hup => ⟨parent, h, hup⟩

theorem not_below_of_parent? (h : tree.parent? node = none) : ¬ tree.Below node other := by
  rw [Below, Relation.TransGen.head'_iff]
  rintro ⟨p, hp, -⟩
  cases h.symm.trans hp

/-- Of two nodes at most one is on the way up from the other. -/
theorem WellFormed.upward_antisymm (h : tree.WellFormed) (hup : tree.Upward node other)
    (hback : tree.Upward other node) : node = other := by
  rcases hup.cases_head with heq | ⟨parent, hp, hup⟩
  · exact heq
  · exact absurd (hup.trans hback) (h.not_upward hp)

/-- **A search on the way up finds the nearest node.** -/
theorem WellFormed.find?_lineage_eq_some_iff (h : tree.WellFormed) {p : Handle → Bool}
    {P : Handle → Prop} (hP : ∀ n, p n = true ↔ P n) :
    (tree.lineage node).find? p = some other ↔ tree.Upward node other ∧ P other ∧
      ∀ n, tree.Upward node n → P n → tree.Upward other n := by
  induction node using h.acyclic.induction with
  | _ node ih =>
    rw [h.lineage_eq, List.find?_cons]
    cases hp : p node with
    | true =>
      -- The node itself is the nearest one.
      have hnode : P node := (hP node).mp hp
      rw [Option.some.injEq]
      constructor
      · rintro rfl
        exact ⟨.refl _, hnode, fun _ hn _ => hn⟩
      · rintro ⟨hup, -, hnearest⟩
        exact h.upward_antisymm hup (hnearest node (.refl _) hnode)
    | false =>
      have hne : ∀ {n}, P n → node ≠ n := by
        rintro n hn rfl
        exact absurd (((hP node).mpr hn).symm.trans hp) (by decide)
      cases hparent : tree.parent? node with
      | none =>
        simp only [List.find?_nil, reduceCtorEq, upward_iff_of_parent?_eq_none hparent, false_iff]
        rintro ⟨rfl, hother, -⟩
        exact hne hother rfl
      | some parent =>
        simp only [ih parent hparent, upward_iff_of_parent? hparent]
        constructor
        · rintro ⟨hup, hother, hnearest⟩
          exact ⟨.inr hup, hother, fun n hn hpn => hnearest n (hn.resolve_left (hne hpn)) hpn⟩
        · rintro ⟨hup, hother, hnearest⟩
          exact ⟨hup.resolve_left (hne hother), hother, fun n hn => hnearest n (.inr hn)⟩

/-- The test of the search for an owner. -/
theorem isOwner_iff (node : Handle) : (match tree.tag? node with
    | some tag => ownerTags.contains tag
    | none => false) = true ↔ tree.IsOwner node := by
  unfold IsOwner
  cases tree.tag? node with
  | none => simp
  | some tag => simp [ownerTags]

theorem WellFormed.ancestors_of_some (h : tree.WellFormed) (hp : tree.parent? node = some parent) :
    tree.ancestors node = tree.lineage parent := by
  rw [ancestors, h.lineage_eq, hp, List.tail_cons]

theorem WellFormed.ancestors_of_none (h : tree.WellFormed) (hp : tree.parent? node = none) :
    tree.ancestors node = [] := by
  rw [ancestors, h.lineage_eq, hp, List.tail_cons]

/-- **The owner that is found for a menu item is the nearest one.** -/
theorem WellFormed.owner?_eq_some_iff (h : tree.WellFormed) :
    tree.owner? item = some owner ↔ tree.Owns owner item := by
  unfold owner?
  cases hparent : tree.parent? item with
  | none =>
    rw [h.ancestors_of_none hparent, List.find?_nil]
    exact ⟨nofun, fun howns => absurd howns.below (not_below_of_parent? hparent)⟩
  | some parent =>
    rw [h.ancestors_of_some hparent]
    refine (h.find?_lineage_eq_some_iff (P := tree.IsOwner) fun n => isOwner_iff n).trans ?_
    simp only [← below_iff_of_parent? hparent]
    exact ⟨fun ⟨hbelow, howner, hnearest⟩ => ⟨hbelow, howner, hnearest⟩,
      fun howns => ⟨howns.below, howns.isOwner, howns.nearest⟩⟩

theorem WellFormed.owner?_eq_none_iff (h : tree.WellFormed) :
    tree.owner? item = none ↔ ∀ other, tree.Below item other → ¬ tree.IsOwner other := by
  unfold owner?
  cases hparent : tree.parent? item with
  | none =>
    rw [h.ancestors_of_none hparent, List.find?_nil]
    exact ⟨fun _ other hbelow => absurd hbelow (not_below_of_parent? hparent), fun _ => rfl⟩
  | some parent =>
    rw [h.ancestors_of_some hparent, List.find?_eq_none]
    simp only [h.mem_lineage_iff, below_iff_of_parent? hparent]
    exact forall₂_congr fun other _ => not_congr (isOwner_iff other)

/-! ## §2 Positions and selected entries -/

/-- A node that stands among its siblings once is found where it stands. -/
theorem lastPosition?_eq_some_iff {siblings : List Handle} (h : siblings.Nodup) {i : Nat} :
    lastPosition? siblings node = some i ↔ siblings[i]? = some node := by
  have hfound : ∀ {i}, lastPosition? siblings node = some i → siblings[i]? = some node := by
    intro i hi
    obtain ⟨j, hj, rfl⟩ := Option.map_eq_some_iff.mp hi
    obtain ⟨hlt, hget, -⟩ := List.idxOf?_eq_some_iff.mp hj
    rw [List.length_reverse] at hlt
    rw [List.getElem_reverse] at hget
    rw [List.getElem?_eq_getElem (by omega), hget]
  refine ⟨hfound, fun hi => ?_⟩
  -- The search finds the node somewhere, and there is one place only.
  cases hlast : lastPosition? siblings node with
  | none =>
    rw [lastPosition?, Option.map_eq_none_iff, List.idxOf?_eq_none_iff, List.mem_reverse] at hlast
    exact absurd (List.mem_of_getElem? hi) hlast
  | some j =>
    have hj := hfound hlast
    have hlt : j < siblings.length := (List.getElem?_eq_some_iff.mp hj).1
    rw [(List.getElem?_inj hlt h).mp (hj.trans hi.symm)]

/-- **A node has one position below its parent.** -/
theorem WellFormed.existsUnique_position (h : tree.WellFormed)
    (hp : tree.parent? node = some parent) :
    ∃! i : Nat, (tree.children parent)[i]? = some node := by
  obtain ⟨i, hi⟩ := List.mem_iff_getElem?.mp ((h.mem_children_iff parent node).mpr hp)
  have hlt : i < (tree.children parent).length := (List.getElem?_eq_some_iff.mp hi).1
  refine ⟨i, hi, fun j hj => ?_⟩
  exact ((List.getElem?_inj hlt (h.nodup_children parent)).mp (hi.trans hj.symm)).symm

/-- The position that is found for a node is its own. -/
theorem WellFormed.position_eq (h : tree.WellFormed) (hp : tree.parent? node = some parent)
    {i : Nat} (hi : (tree.children parent)[i]? = some node) : tree.position node = i := by
  have hlast := (lastPosition?_eq_some_iff (h.nodup_children parent)).mpr hi
  simp only [position, hp, Option.bind_some, hlast]

/-- The value that an element shows under a key: its property, or its attribute if the property was
never set. -/
def Exhibits (tree : Tree) (node : Handle) (key value : String) : Prop :=
  ∃ e, tree.element? node = some e ∧ (e.properties.get? key = some value ∨
    e.properties.get? key = none ∧ e.attributes.get? key = some value)

theorem property?_eq_some_iff {key value : String} :
    tree.property? node key = some value ↔ tree.Exhibits node key value := by
  simp only [property?, Exhibits, Option.bind_eq_some_iff, Option.or_eq_some_iff]

/-- The value that an element shows under a key, the empty text if it shows none. -/
def ExhibitsOrEmpty (tree : Tree) (node : Handle) (key value : String) : Prop :=
  tree.Exhibits node key value ∨ (∀ shown, ¬ tree.Exhibits node key shown) ∧ value = ""

theorem property?_getD_eq_iff {key value : String} :
    (tree.property? node key).getD "" = value ↔ tree.ExhibitsOrEmpty node key value := by
  simp only [ExhibitsOrEmpty, ← property?_eq_some_iff]
  cases tree.property? node key with
  | none => simp [eq_comm]
  | some shown => simp

/-- The index of the entry that is selected in an element; the index -1 stands for no entry. -/
def Selects (tree : Tree) (node : Handle) (index : Int) : Prop :=
  ∃ text, tree.Exhibits node selectedIndexKey text ∧ ShowsIndex text.toList index ∧ index ≠ -1

theorem selects_iff {index : Int} :
    tree.Selects node index ↔ tree.selectedIndex node = index ∧ index ≠ -1 := by
  simp only [Selects, ← property?_eq_some_iff, ← readSigned64?_trim_eq_some_iff, selectedIndex]
  cases tree.property? node selectedIndexKey with
  | none => simp; omega
  | some text =>
    cases hread : readSigned64? (trim text.toList) with
    | none => simp [hread]; omega
    | some i => simp [hread]

/-! ## §3 The rules -/

/-- What an interaction counts for: an element, the kind of the event, and the value that the event
tells with it. -/
inductive CountsAs (tree : Tree) : Interaction → Handle → EventKind → List (String × String) → Prop
  where
  | plain {node : Handle} (hplain : tree.tag? node ≠ some "menuitem") :
      CountsAs tree (.command node) node .click []
  /-- A menu item that nothing owns is an element like any other. -/
  | unowned {item : Handle} (hitem : tree.tag? item = some "menuitem")
      (hnone : ∀ other, tree.Below item other → ¬ tree.IsOwner other) :
      CountsAs tree (.command item) item .click []
  | menu {item owner : Handle} (hitem : tree.tag? item = some "menuitem")
      (howns : tree.Owns owner item) (howner : tree.tag? owner = some "menu") :
      CountsAs tree (.command item) item .click []
  /-- The entry is told by its position, texts counted. -/
  | button {item owner parent : Handle} {position : Nat}
      (hitem : tree.tag? item = some "menuitem") (howns : tree.Owns owner item)
      (howner : tree.tag? owner = some "button") (hparent : tree.parent? item = some parent)
      (hposition : (tree.children parent)[position]? = some item) :
      CountsAs tree (.command item) owner .select [("selectedIndex", toString position)]
  | menuList {item owner : Handle} {index : Int} (hitem : tree.tag? item = some "menuitem")
      (howns : tree.Owns owner item) (howner : tree.tag? owner = some "menulist")
      (hselects : tree.Selects owner index) :
      CountsAs tree (.command item) owner .select [("selectedIndex", toString index)]
  | select {node : Handle} {index : Int} (hselects : tree.Selects node index) :
      CountsAs tree (.select node) node .select [("selectedIndex", toString index)]
  | pick {id : NodeId} {node : Handle} {color : String} (hlookup : tree.lookup? id = some node)
      (hcolor : tree.ExhibitsOrEmpty node "color" color) :
      CountsAs tree (.pick id) node .pick [("color", color)]
  | change {node : Handle} {value : String} (hvalue : tree.ExhibitsOrEmpty node "value" value) :
      CountsAs tree (.change node) node .change [("value", value)]

/-- An event tells of an element under its id, with its check mark and a value.  An element without
an id can tell nothing. -/
structure Reports (tree : Tree) (node : Handle) (kind : EventKind) (extra : List (String × String))
    (event : Event) : Prop where
  source : tree.id? node = some event.source
  kind : event.kind = kind
  checked : event.checked = tree.attribute? node "checked"
  extra : event.extra = Dict.ofList extra

theorem eventOn?_eq_some_iff {kind : EventKind} {extra : List (String × String)} {event : Event} :
    tree.eventOn? node kind extra = some event ↔ tree.Reports node kind extra event := by
  rw [eventOn?, Option.map_eq_some_iff]
  constructor
  · rintro ⟨source, hid, rfl⟩
    exact ⟨hid, rfl, rfl, rfl⟩
  · rintro ⟨hid, rfl, hchecked, hextra⟩
    exact ⟨event.source, hid, by rw [← hchecked, ← hextra]⟩

/-- The event of a selection. -/
theorem selectionOn?_of_ne {index : Int} (h : index ≠ -1) : tree.selectionOn? node index =
    tree.eventOn? node .select [("selectedIndex", toString index)] := by
  rw [selectionOn?, if_neg h, ofList_writeInt, selectedIndexKey]

theorem ne_of_selectionOn? {index : Int} {event : Event}
    (h : tree.selectionOn? node index = some event) : index ≠ -1 := by
  rintro rfl
  cases h

/-! ## §4 The theorem -/

/-- What an interaction counts for is what is reported of it. -/
theorem WellFormed.report?_of_countsAs (h : tree.WellFormed) {interaction : Interaction}
    {kind : EventKind} {extra : List (String × String)}
    (hcounts : tree.CountsAs interaction node kind extra) :
    tree.report? interaction = tree.eventOn? node kind extra := by
  cases hcounts with
  | plain hplain => rw [report?, if_neg hplain, clickOn?]
  | unowned hitem hnone =>
    rw [report?, if_pos hitem, activationOf?, h.owner?_eq_none_iff.mpr hnone]
    rfl
  | menu hitem howns howner =>
    rw [report?, if_pos hitem, activationOf?, h.owner?_eq_some_iff.mpr howns]
    simp only [if_pos howner, clickOn?]
  | button hitem howns howner hparent hposition =>
    rw [report?, if_pos hitem, activationOf?, h.owner?_eq_some_iff.mpr howns]
    simp only [howner]
    rw [if_neg (by decide), if_pos trivial, h.position_eq hparent hposition,
      selectionOn?_of_ne (by omega)]
    rfl
  | menuList hitem howns howner hselects =>
    obtain ⟨rfl, hne⟩ := selects_iff.mp hselects
    rw [report?, if_pos hitem, activationOf?, h.owner?_eq_some_iff.mpr howns]
    simp only [howner]
    rw [if_neg (by decide), if_neg (by decide), selectionOn?_of_ne hne]
  | select hselects =>
    obtain ⟨rfl, hne⟩ := selects_iff.mp hselects
    rw [report?, selectionOn?_of_ne hne]
  | pick hlookup hcolor =>
    rw [report?, hlookup, Option.bind_some, property?_getD_eq_iff.mpr hcolor]
  | change hvalue => rw [report?, property?_getD_eq_iff.mpr hvalue]

/-- What is reported of a menu item is what its activation counts for. -/
theorem WellFormed.countsAs_of_activationOf? (h : tree.WellFormed) {event : Event}
    (hitem : tree.tag? item = some "menuitem") (hreport : tree.activationOf? item = some event) :
    ∃ node kind extra, tree.CountsAs (.command item) node kind extra := by
  unfold activationOf? at hreport
  cases howner : tree.owner? item with
  | none => exact ⟨_, _, _, .unowned hitem (h.owner?_eq_none_iff.mp howner)⟩
  | some owner =>
    have howns := h.owner?_eq_some_iff.mp howner
    simp only [howner] at hreport
    rcases howns.isOwner with htag | htag | htag
    · exact ⟨_, _, _, .menu hitem howns htag⟩
    · -- An item below a button has a parent, in which it has its position.
      obtain ⟨parent, hparent, -⟩ := Relation.TransGen.head'_iff.mp howns.below
      obtain ⟨position, hposition, -⟩ := h.existsUnique_position hparent
      exact ⟨_, _, _, .button hitem howns htag hparent hposition⟩
    · simp only [htag] at hreport
      rw [if_neg (by decide), if_neg (by decide)] at hreport
      exact ⟨_, _, _, .menuList hitem howns htag
        (selects_iff.mpr ⟨rfl, ne_of_selectionOn? hreport⟩)⟩

/-- An interaction that is reported counts for something. -/
theorem WellFormed.exists_countsAs_of_report? (h : tree.WellFormed) {interaction : Interaction}
    {event : Event} (hreport : tree.report? interaction = some event) :
    ∃ node kind extra, tree.CountsAs interaction node kind extra := by
  cases interaction with
  | command target =>
    by_cases hitem : tree.tag? target = some "menuitem"
    · rw [report?, if_pos hitem] at hreport
      exact h.countsAs_of_activationOf? hitem hreport
    · exact ⟨_, _, _, .plain hitem⟩
  | select target =>
    exact ⟨_, _, _, .select (selects_iff.mpr ⟨rfl, ne_of_selectionOn? hreport⟩)⟩
  | pick id =>
    obtain ⟨target, hlookup, -⟩ := Option.bind_eq_some_iff.mp hreport
    exact ⟨_, _, _, .pick hlookup (property?_getD_eq_iff.mp rfl)⟩
  | change target => exact ⟨_, _, _, .change (property?_getD_eq_iff.mp rfl)⟩

/-- **An interaction is reported as what it counts for**, in every tree with a history; what counts
for nothing, and what happens on an element without an id, is not reported.  The position that is
told of an entry is the one place in which it stands. -/
theorem History.reports {record : List Made} (h : History record tree) :
    (∀ interaction event, tree.report? interaction = some event ↔
      ∃ node kind extra, tree.CountsAs interaction node kind extra ∧
        tree.Reports node kind extra event) ∧
    ∀ item parent, tree.parent? item = some parent →
      ∃! i : Nat, (tree.children parent)[i]? = some item := by
  have hwf := h.kept.wellFormed
  refine ⟨fun interaction event => ?_, fun item parent => hwf.existsUnique_position⟩
  constructor
  · intro hreport
    obtain ⟨node, kind, extra, hcounts⟩ := hwf.exists_countsAs_of_report? hreport
    rw [hwf.report?_of_countsAs hcounts, eventOn?_eq_some_iff] at hreport
    exact ⟨node, kind, extra, hcounts, hreport⟩
  · rintro ⟨node, kind, extra, hcounts, hevent⟩
    rw [hwf.report?_of_countsAs hcounts, eventOn?_eq_some_iff]
    exact hevent

/-- A button with a popup that holds a text and two entries. -/
def buttonWithEntries : List Change :=
  [.append 2 5, .createElement .xul "menuitem" "E4", .append 2 4,
    .createElement .xul "menuitem" "E3", .append 2 3, .createText "Choose", .append 1 2,
    .createElement .xul "menupopup" "E2", .append 0 1, .createElement .xul "button" "E1"]

/-- The second of the entries stands third, after the text. -/
theorem History.reports_buttonWithEntries :
    History (replay buttonWithEntries).1 (replay buttonWithEntries).2 ∧
      ∃ node kind extra, (replay buttonWithEntries).2.CountsAs (.command 5) node kind extra ∧
        (replay buttonWithEntries).2.Reports node kind extra
          ⟨"E1", .select, none, Dict.ofList [("selectedIndex", "2")]⟩ := by
  have h : History (replay buttonWithEntries).1 (replay buttonWithEntries).2 :=
    history_replay (by decide +kernel)
  exact ⟨h, ((History.reports h).1 _ _).mp (by decide +kernel)⟩

end Tree

end RemoteUi
