import RemoteUi.Proofs.Dict
import RemoteUi.Proofs.Wire.Documents
import RemoteUi.Wire.Request

/-!
# Requests read back

The server reads every request that the client can write as the request that was meant, whatever
program, session, event and number it carries.  The client cannot write an event only because of
the names of its extras.

* §1 boot requests;
* §2 the fields of an event request;
* §3 event requests.
-/

namespace RemoteUi.Wire

open RemoteUi.Text

variable {program : Option String} {event : Event} {session : Token} {count : UInt64}

/-! ## §1 Boots -/

/-- Reading the number of a request from its field. -/
theorem readUInt64?_countText (count : UInt64) :
    readUInt64? (countText count).toList = some count := by
  rw [countText, String.toList_ofList, readUInt64?_writeNat]

/-- A field that is there is found. -/
theorem Document.require_of_mem {doc : Document} (h : doc.Proper) {key value : String}
    (hmem : (key, value) ∈ doc.fields) : doc.require key = .ok value := by
  rw [require, (get?_eq_some_iff h.nodup key value).mpr hmem]

/-- The fields of a boot request. -/
def bootFields (program : Option String) (count : UInt64) : List (String × String) :=
  ("type", "boot") :: (program.toList.map fun name => ("name", name)) ++
    [("requestCount", countText count)]

theorem bootDocument_eq (program : Option String) (count : UInt64) :
    bootDocument program count = ⟨bootFields program count⟩ := by
  cases program <;> rfl

theorem proper_bootFields (program : Option String) (count : UInt64) :
    (Document.mk (bootFields program count)).Proper := by
  have hnames : (bootFields program count).map (·.1) = ["type", "requestCount"] ∨
      (bootFields program count).map (·.1) = ["type", "name", "requestCount"] := by
    cases program
    · exact .inl rfl
    · exact .inr rfl
  constructor
  · intro field hfield
    have hmem : field.1 ∈ (bootFields program count).map (·.1) :=
      List.mem_map.mpr ⟨field, hfield, rfl⟩
    have hall : ∀ name ∈ ["type", "name", "requestCount"], isElementName name.toList := by
      decide +kernel
    refine hall _ ?_
    rcases hnames with h | h <;> rw [h] at hmem
    · simp only [List.mem_cons] at hmem ⊢
      grind
    · exact hmem
  · rcases hnames with h | h <;> rw [h] <;> decide

/-- **A boot request reads back.** -/
theorem Request.ofText_bootDocument (program : Option String) (count : UInt64) :
    Request.ofText (bootDocument program count).text = .ok (.boot program count) := by
  have hproper := proper_bootFields program count
  rw [bootDocument_eq, ofText, Document.ofText_text hproper]
  have hcount : (Document.mk (bootFields program count)).require "requestCount" =
      .ok (countText count) := Document.require_of_mem hproper (by simp [bootFields])
  have htype : (Document.mk (bootFields program count)).require "type" = .ok "boot" :=
    Document.require_of_mem hproper (by simp [bootFields])
  have hname : (Document.mk (bootFields program count)).get? "name" = program := by
    cases program with
    | none => rfl
    | some name => rfl
  simp only [ofDocument, hcount, htype, bind, Except.bind, readUInt64?_countText, hname]
  rfl

/-! ## §2 The fields of an event request -/

/-- The fields that stand before the extras. -/
def leadingFields (event : Event) : List (String × String) :=
  ("source", event.source) :: ("name", event.kind.name) ::
    event.checked.toList.map fun checked => ("checked", checked)

/-- The fields that stand after the extras. -/
def trailingFields (session : Token) (count : UInt64) : List (String × String) :=
  [("type", "event"), ("session", session), ("requestCount", countText count)]

/-- The fields of an event request. -/
def eventFields (event : Event) (session : Token) (count : UInt64) : List (String × String) :=
  leadingFields event ++ (event.extra.entries ++ trailingFields session count)

/-- An event that can be written: its extras have names of elements that no field has anyway. -/
def Event.Writable (event : Event) : Prop :=
  ∀ key ∈ event.extra.keys, key ∉ reservedFields ∧ isElementName key.toList

theorem checkExtra_eq_ok_iff (key : String) :
    checkExtra key = .ok () ↔ key ∉ reservedFields ∧ isElementName key.toList := by
  unfold checkExtra
  split
  · next h => simp [List.contains_iff_mem.mp h]
  · next h =>
    have hnot : key ∉ reservedFields := fun hmem => h (List.contains_iff_mem.mpr hmem)
    unfold checkElementName
    cases isElementName key.toList <;> simp [hnot, Except.mapError]

/-- A list passes a check if all its members do, and only then. -/
theorem forM_eq_ok_iff {α ε : Type} (check : α → Except ε Unit) (xs : List α) :
    xs.forM check = .ok () ↔ ∀ x ∈ xs, check x = .ok () := by
  induction xs with
  | nil => simp [pure, Except.pure]
  | cons x xs ih =>
    rw [List.forall_mem_cons, ← ih]
    simp only [List.forM, bind, Except.bind]
    cases check x <;> simp

/-- The names before the extras. -/
theorem map_fst_leadingFields_sublist (event : Event) :
    ((leadingFields event).map (·.1)).Sublist ["source", "name", "checked"] := by
  unfold leadingFields
  cases event.checked <;> simp

/-- The names after the extras. -/
@[simp] theorem map_fst_trailingFields (session : Token) (count : UInt64) :
    (trailingFields session count).map (·.1) = ["type", "session", "requestCount"] := rfl

theorem mem_reservedFields_of_leading {name : String}
    (h : name ∈ (leadingFields event).map (·.1)) : name ∈ reservedFields := by
  have hall : ∀ name ∈ ["source", "name", "checked"], name ∈ reservedFields := by decide
  exact hall name ((map_fst_leadingFields_sublist event).subset h)

theorem mem_reservedFields_of_trailing {name : String}
    (h : name ∈ (trailingFields session count).map (·.1)) : name ∈ reservedFields := by
  have hall : ∀ name ∈ ["type", "session", "requestCount"], name ∈ reservedFields := by decide
  exact hall name h

/-- The names of a written event are distinct names of elements. -/
theorem proper_eventFields (h : event.Writable) (session : Token) (count : UInt64) :
    (Document.mk (eventFields event session count)).Proper := by
  have hreserved : ∀ name ∈ reservedFields, isElementName name.toList := by decide +kernel
  have hnames : ∀ name ∈ (eventFields event session count).map (·.1),
      isElementName name.toList := by
    intro name hname
    simp only [eventFields, List.map_append, List.mem_append] at hname
    rcases hname with hname | hname | hname
    · exact hreserved name (mem_reservedFields_of_leading hname)
    · exact (h name hname).2
    · exact hreserved name (mem_reservedFields_of_trailing hname)
  refine ⟨fun field hfield => hnames _ (List.mem_map.mpr ⟨field, hfield, rfl⟩), ?_⟩
  -- The reserved names are distinct, and those of the extras are distinct and not reserved.
  have hlead : ((leadingFields event).map (·.1)).Nodup :=
    (map_fst_leadingFields_sublist event).nodup (by decide)
  have htrail : ((trailingFields session count).map (·.1)).Nodup := by simp
  have hextra : ∀ a ∈ event.extra.keys, ∀ b ∈ (trailingFields session count).map (·.1), a ≠ b := by
    rintro a ha b hb rfl
    exact (h a ha).1 (mem_reservedFields_of_trailing hb)
  simp only [eventFields, List.map_append]
  refine List.nodup_append.mpr
    ⟨hlead, List.nodup_append.mpr ⟨event.extra.nodup_keys, htrail, hextra⟩, ?_⟩
  rintro a ha b hb rfl
  rcases List.mem_append.mp hb with hb | hb
  · exact (h a hb).1 (mem_reservedFields_of_leading ha)
  · have ha := (map_fst_leadingFields_sublist event).subset ha
    rw [map_fst_trailingFields] at hb
    have hdisjoint : ∀ name ∈ ["source", "name", "checked"],
        name ∉ ["type", "session", "requestCount"] := by decide
    exact hdisjoint a ha hb

/-- **An event is written as its fields, in this order, if it can be written at all.** -/
theorem eventDocument_of_writable (h : event.Writable) (session : Token) (count : UInt64) :
    eventDocument event session count = .ok ⟨eventFields event session count⟩ := by
  have hcheck : event.extra.keys.forM checkExtra = .ok () :=
    (forM_eq_ok_iff ..).mpr fun key hkey => (checkExtra_eq_ok_iff key).mpr (h key hkey)
  have hfields := Document.foldl_insert_of_nodup ∅ (eventFields event session count)
    (proper_eventFields h session count).nodup
  rw [eventDocument, hcheck]
  refine congrArg Except.ok (Eq.trans ?_ hfields)
  simp only [eventFields, leadingFields, trailingFields, List.foldl_append, List.foldl_cons,
    List.foldl_nil]
  cases event.checked <;> rfl

theorem writable_of_eventDocument {doc : Document}
    (h : eventDocument event session count = .ok doc) : event.Writable := by
  unfold eventDocument at h
  cases hcheck : event.extra.keys.forM checkExtra with
  | error e =>
    rw [hcheck] at h
    cases h
  | ok u =>
    intro key hkey
    exact (checkExtra_eq_ok_iff key).mp ((forM_eq_ok_iff ..).mp hcheck key hkey)

/-- The request of an event is longer than the event's check mark. -/
theorem length_lt_of_eventDocument {doc : Document} {value : String}
    (hdoc : eventDocument event session count = .ok doc) (hchecked : event.checked = some value) :
    value.length < doc.text.utf8ByteSize := by
  have h := writable_of_eventDocument hdoc
  obtain rfl := Except.ok.inj ((eventDocument_of_writable h session count).symm.trans hdoc)
  have hmem : ("checked", value) ∈ eventFields event session count := by
    simp [eventFields, leadingFields, hchecked]
  exact Document.length_lt_of_mem hmem

/-! ## §3 Events -/

/-- The extras of an event are the fields that are not reserved. -/
theorem extras_eventFields (h : event.Writable) :
    (Document.mk (eventFields event session count)).extras = event.extra := by
  have hlead : (leadingFields event).filter (fun f => !reservedFields.contains f.1) = [] := by
    rw [List.filter_eq_nil_iff]
    intro field hfield
    have hmem := mem_reservedFields_of_leading (List.mem_map.mpr ⟨field, hfield, rfl⟩)
    simpa using hmem
  have hextra : event.extra.entries.filter (fun f => !reservedFields.contains f.1) =
      event.extra.entries := by
    rw [List.filter_eq_self]
    intro field hfield
    simpa using (h field.1 (List.mem_map.mpr ⟨field, hfield, rfl⟩)).1
  have htrail : (trailingFields session count).filter (fun f => !reservedFields.contains f.1) =
      [] := rfl
  simp only [Document.extras, eventFields, List.filter_append, hlead, hextra, htrail,
    List.nil_append, List.append_nil, Dict.ofList_entries]

/-- The check mark is the value of its field, if the event has one. -/
theorem get?_checked_eventFields (h : event.Writable) :
    (Document.mk (eventFields event session count)).get? "checked" = event.checked := by
  cases hchecked : event.checked with
  | some checked =>
    refine (Document.get?_eq_some_iff (proper_eventFields h session count).nodup _ _).mpr ?_
    simp [eventFields, leadingFields, hchecked]
  | none =>
    refine Document.get?_eq_none fun hmem => ?_
    simp only [eventFields, leadingFields, hchecked, List.map_append, List.mem_append,
      map_fst_trailingFields] at hmem
    rcases hmem with hmem | hmem | hmem
    · simp at hmem
    · exact (h _ hmem).1 (by decide)
    · simp at hmem

/-- **An event request reads back**, if it can be written. -/
theorem Request.ofText_eventDocument {doc : Document}
    (hdoc : eventDocument event session count = .ok doc) :
    Request.ofText doc.text = .ok (.event session event count) := by
  have h := writable_of_eventDocument hdoc
  obtain rfl := Except.ok.inj ((eventDocument_of_writable h session count).symm.trans hdoc)
  have hproper := proper_eventFields h session count
  have hcount : (Document.mk (eventFields event session count)).require "requestCount" =
      .ok (countText count) := Document.require_of_mem hproper (by simp [eventFields, trailingFields])
  have htype : (Document.mk (eventFields event session count)).require "type" = .ok "event" :=
    Document.require_of_mem hproper (by simp [eventFields, trailingFields])
  have hsession : (Document.mk (eventFields event session count)).require "session" =
      .ok session := Document.require_of_mem hproper (by simp [eventFields, trailingFields])
  have hname : (Document.mk (eventFields event session count)).require "name" =
      .ok event.kind.name := Document.require_of_mem hproper (by simp [eventFields, leadingFields])
  have hsource : (Document.mk (eventFields event session count)).require "source" =
      .ok event.source := Document.require_of_mem hproper (by simp [eventFields, leadingFields])
  have hevent : eventOfDocument ⟨eventFields event session count⟩ = .ok event := by
    simp only [eventOfDocument, hname, hsource, bind, Except.bind, EventKind.ofName?_name,
      get?_checked_eventFields h, extras_eventFields h]
    rfl
  rw [ofText, Document.ofText_text hproper]
  simp only [ofDocument, hcount, htype, hsession, hevent, bind, Except.bind, readUInt64?_countText]
  rfl

end RemoteUi.Wire
