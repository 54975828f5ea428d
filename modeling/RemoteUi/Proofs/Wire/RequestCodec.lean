import RemoteUi.Proofs.Wire.Requests

/-!
# The codec of requests

Requests and their documents correspond: a request that can be written is read as it was, and a
request that was read, from whatever spelling, can be written.  Writing fails for one reason only,
an extra whose name cannot be used, and it reports the first such extra in the order of the names.

* §1 documents that were read are proper, since the reader succeeds only if all its parts do;
* §2 the first extra that cannot be used;
* §3 requests that were read can be written;
* §4 the codec.
-/

namespace RemoteUi.Wire

open RemoteUi.Text

/-! ## §1 Documents that were read -/

section Except

variable {ε ε' α β : Type}

/-- Two steps succeed if the first one does, and then the second one. -/
theorem exists_of_bind_eq_ok {x : Except ε α} {f : α → Except ε β} {b : β}
    (h : (x >>= f) = .ok b) : ∃ a, x = .ok a ∧ f a = .ok b := by
  cases x with
  | error e => cases h
  | ok a => exact ⟨a, rfl, h⟩

theorem exists_of_map_eq_ok {x : Except ε α} {f : α → β} {b : β} (h : x.map f = .ok b) :
    ∃ a, x = .ok a ∧ f a = b := by
  cases x with
  | error e => cases h
  | ok a => exact ⟨a, rfl, Except.ok.inj h⟩

theorem eq_error_of_map_eq_error {x : Except ε α} {f : α → β} {e : ε} (h : x.map f = .error e) :
    x = .error e := by
  cases x with
  | error e' => exact congrArg Except.error (Except.error.inj h)
  | ok a => cases h

theorem eq_ok_of_mapError_eq_ok {x : Except ε α} {f : ε → ε'} {a : α}
    (h : x.mapError f = .ok a) : x = .ok a := by
  cases x with
  | error e => cases h
  | ok a' => exact congrArg Except.ok (Except.ok.inj h)

end Except

theorem checkElementName_eq_ok_iff (name : List Char) :
    checkElementName name = .ok () ↔ isElementName name := by
  unfold checkElementName
  split <;> simp_all

/-- The name of a field that was read is the name of an element. -/
theorem isElementName_of_readField {s : List Char} {e : ParsedField} (h : readField s = .ok e) :
    isElementName e.name := by
  unfold readField at h
  split at h
  · cases h
  split at h
  · cases h
  next tag body htag =>
  split at h
  · -- An element without content: the name is what stands before the slash.
    obtain ⟨_, hname, hfield⟩ := exists_of_bind_eq_ok h
    cases hfield
    exact (checkElementName_eq_ok_iff _).mp hname
  · -- An element with content: the name is the whole tag.
    obtain ⟨_, hname, hfield⟩ := exists_of_bind_eq_ok h
    split at hfield
    · cases hfield
    · obtain ⟨value, -, hvalue⟩ := exists_of_bind_eq_ok hfield
      cases hvalue
      exact (checkElementName_eq_ok_iff _).mp hname

namespace Document

/-- Setting a field adds its name at the end, unless the name is there. -/
theorem map_fst_setField (key value : String) (fields : List (String × String)) :
    (setField key value fields).map (·.1) =
      if key ∈ fields.map (·.1) then fields.map (·.1) else fields.map (·.1) ++ [key] := by
  induction fields with
  | nil => rfl
  | cons field fields ih =>
    obtain ⟨k, v⟩ := field
    by_cases hk : k = key
    · simp [setField, hk]
    · have hne : key ≠ k := Ne.symm hk
      rw [setField, if_neg hk, List.map_cons, ih]
      by_cases hmem : key ∈ fields.map (·.1) <;> simp [hmem, hne]

/-- Setting a field puts no name there twice. -/
theorem nodup_map_fst_insert {doc : Document} (h : (doc.fields.map (·.1)).Nodup)
    (key value : String) : ((doc.insert key value).fields.map (·.1)).Nodup := by
  rw [insert, map_fst_setField]
  split
  · exact h
  · next hnew => exact List.nodup_append.mpr ⟨h, by simp, by grind⟩

/-- Setting a field with a proper name keeps a document proper. -/
theorem Proper.insert {doc : Document} (h : doc.Proper) {key : String}
    (hkey : isElementName key.toList) (value : String) : (doc.insert key value).Proper := by
  have hnames : (doc.insert key value).fields.map (·.1) =
      if key ∈ doc.fields.map (·.1) then doc.fields.map (·.1)
      else doc.fields.map (·.1) ++ [key] := map_fst_setField key value doc.fields
  have hold : ∀ name ∈ doc.fields.map (·.1), isElementName name.toList := by
    intro name hname
    obtain ⟨field, hfield, rfl⟩ := List.mem_map.mp hname
    exact h.names field hfield
  refine ⟨fun field hfield => ?_, nodup_map_fst_insert h.nodup key value⟩
  have hmem : field.1 ∈ (doc.insert key value).fields.map (·.1) :=
    List.mem_map.mpr ⟨field, hfield, rfl⟩
  rw [hnames] at hmem
  split at hmem
  · exact hold _ hmem
  · rcases List.mem_append.mp hmem with hmem | hmem
    · exact hold _ hmem
    · exact List.mem_singleton.mp hmem ▸ hkey

theorem proper_empty : (∅ : Document).Proper := ⟨nofun, .nil⟩

/-- Reading more fields keeps a document proper. -/
theorem Proper.readFields {doc doc' : Document} {s : List Char} (h : doc.Proper)
    (hread : readFields doc s = .ok doc') : doc'.Proper := by
  -- One field is read in each round, and its name was checked.
  fun_induction Wire.readFields doc s with
  | case1 doc s rest hend =>
    obtain ⟨_, -, rfl⟩ := exists_of_map_eq_ok hread
    exact h
  | case2 doc s hend cause hfield => cases hread
  | case3 doc s hend e hfield ih =>
    refine ih (h.insert ?_ _) hread
    rw [String.toList_ofList]
    exact isElementName_of_readField hfield

/-- **A document that was read is proper**, whatever its text looked like. -/
theorem proper_of_read {s : List Char} {doc : Document} (h : read s = .ok doc) : doc.Proper := by
  obtain ⟨s', -, hroot⟩ := exists_of_bind_eq_ok h
  split at hroot
  · -- The root has no content.
    obtain ⟨_, -, rfl⟩ := exists_of_map_eq_ok hroot
    exact proper_empty
  · split at hroot
    · cases hroot
    · exact proper_empty.readFields hroot

theorem proper_of_ofText {text : String} {doc : Document} (h : ofText text = .ok doc) :
    doc.Proper :=
  proper_of_read (eq_ok_of_mapError_eq_ok h)

end Document

/-! ## §2 The first extra that cannot be used -/

/-- A name that no extra may have, with the cause for which it is refused: it is the name of a
field that requests have anyway, or it is no name of an element. -/
inductive Unusable : String → WireError → Prop where
  | reserved {key : String} (h : key ∈ reservedFields) : Unusable key (.reservedField key)
  | malformed {key : String} (hfree : key ∉ reservedFields) (h : isElementName key.toList = false) :
      Unusable key (.malformed (.invalidName key))

/-- Whether a request is an event with an extra whose name cannot be used. -/
def Request.HasUnusableExtra (request : Request) : Prop :=
  ∃ session event count, request = .event session event count ∧
    ∃ key ∈ event.extra.keys, key ∈ reservedFields ∨ isElementName key.toList = false

/-- A cause that concerns the first of the extras whose names cannot be used, in the order of the
names. -/
def Request.RefusedFor (request : Request) (error : WireError) : Prop :=
  ∃ session event count, request = .event session event count ∧
    ∃ key ∈ event.extra.keys, Unusable key error ∧
      ∀ other ∈ event.extra.keys, other < key → other ∉ reservedFields ∧ isElementName other.toList

theorem checkExtra_eq_error_iff (key : String) (error : WireError) :
    checkExtra key = .error error ↔ Unusable key error := by
  unfold checkExtra
  split
  · next h =>
    have hmem : key ∈ reservedFields := List.contains_iff_mem.mp h
    constructor
    · intro heq
      cases heq
      exact .reserved hmem
    · intro hunusable
      cases hunusable with
      | reserved => rfl
      | malformed hfree => exact absurd hmem hfree
  · next h =>
    have hfree : key ∉ reservedFields := fun hmem => h (List.contains_iff_mem.mpr hmem)
    unfold checkElementName
    cases hname : isElementName key.toList with
    | true =>
      simp only [if_true, Except.mapError, reduceCtorEq, false_iff]
      intro hunusable
      cases hunusable with
      | reserved hmem => exact hfree hmem
      | malformed _ hbad => exact Bool.false_ne_true (hbad.symm.trans hname)
    | false =>
      simp only [Bool.false_eq_true, if_false, Except.mapError, Except.error.injEq,
        String.ofList_toList]
      constructor
      · rintro rfl
        exact .malformed hfree hname
      · intro hunusable
        cases hunusable with
        | reserved hmem => exact absurd hmem hfree
        | malformed => rfl

/-- A list fails a check with what its first failing member fails with. -/
theorem forM_eq_error_iff {α ε : Type} (check : α → Except ε Unit) (xs : List α) (error : ε) :
    xs.forM check = .error error ↔ ∃ before x after, xs = before ++ x :: after ∧
      (∀ y ∈ before, check y = .ok ()) ∧ check x = .error error := by
  induction xs with
  | nil => simp [pure, Except.pure]
  | cons x xs ih =>
    have hcons : (x :: xs).forM check = (check x).bind fun _ => xs.forM check := rfl
    rw [hcons]
    constructor
    · intro h
      cases hx : check x with
      | error e =>
        rw [hx] at h
        exact ⟨[], x, xs, rfl, nofun, by rw [hx]; exact h⟩
      | ok u =>
        rw [hx] at h
        obtain ⟨before, y, after, rfl, hbefore, hy⟩ := ih.mp h
        exact ⟨x :: before, y, after, rfl, List.forall_mem_cons.mpr ⟨hx, hbefore⟩, hy⟩
    · rintro ⟨before, y, after, hsplit, hbefore, hy⟩
      cases before with
      | nil =>
        obtain ⟨rfl, -⟩ := List.cons.inj hsplit
        rw [hy]
        rfl
      | cons z before =>
        obtain ⟨rfl, rfl⟩ := List.cons.inj hsplit
        obtain ⟨hx, hbefore⟩ := List.forall_mem_cons.mp hbefore
        rw [hx]
        exact ih.mpr ⟨before, y, after, rfl, hbefore, hy⟩

/-- An event is refused for the first of its extras that fails the check. -/
theorem eventDocument_eq_error_iff {event : Event} {session : Token} {count : UInt64}
    (error : WireError) :
    eventDocument event session count = .error error ↔
      event.extra.keys.forM checkExtra = .error error := by
  unfold eventDocument
  cases event.extra.keys.forM checkExtra <;> simp [bind, Except.bind, pure, Except.pure]

/-- **A request is refused for its first unusable extra.** -/
theorem Request.toDocument_eq_error_iff (request : Request) (error : WireError) :
    request.toDocument = .error error ↔ request.RefusedFor error := by
  cases request with
  | boot program count =>
    constructor
    · intro h
      cases h
    · rintro ⟨session, event, number, heq, -⟩
      cases heq
  | event session event count =>
    have hsorted : event.extra.keys.Pairwise (· < ·) := event.extra.sorted.map _ fun _ _ h => h
    rw [toDocument, eventDocument_eq_error_iff, forM_eq_error_iff]
    constructor
    · rintro ⟨before, key, after, hkeys, hbefore, hkey⟩
      refine ⟨session, event, count, rfl, key, by simp [hkeys],
        (checkExtra_eq_error_iff key error).mp hkey, fun other hother hlt => ?_⟩
      -- A smaller key stands before the first failing one, so it passed the check.
      refine (checkExtra_eq_ok_iff other).mp (hbefore other ?_)
      rw [hkeys] at hother hsorted
      have hlater : ∀ k ∈ after, key < k := (List.pairwise_cons.mp
        (List.pairwise_append.mp hsorted).2.1).1
      rcases List.mem_append.mp hother with hmem | hmem
      · exact hmem
      · rcases List.mem_cons.mp hmem with rfl | hmem
        · exact absurd hlt (String.lt_irrefl _)
        · exact absurd hlt (String.lt_asymm (hlater other hmem))
    · rintro ⟨_, _, _, heq, key, hkey, hunusable, hfirst⟩
      cases heq
      obtain ⟨before, after, hkeys⟩ := List.append_of_mem hkey
      refine ⟨before, key, after, hkeys, fun other hother => ?_,
        (checkExtra_eq_error_iff key error).mpr hunusable⟩
      rw [hkeys] at hsorted
      have hlt : other < key := (List.pairwise_append.mp hsorted).2.2 other hother key
        List.mem_cons_self
      exact (checkExtra_eq_ok_iff other).mpr (hfirst other (by simp [hkeys, hother]) hlt)

/-- A request is not refused if all its extras can be used, and only then. -/
theorem Request.exists_error_iff (request : Request) :
    (∃ error, request.toDocument = .error error) ↔ request.HasUnusableExtra := by
  constructor
  · rintro ⟨error, h⟩
    obtain ⟨session, event, count, heq, key, hkey, hunusable, -⟩ :=
      (request.toDocument_eq_error_iff error).mp h
    refine ⟨session, event, count, heq, key, hkey, ?_⟩
    cases hunusable with
    | reserved hreserved => exact .inl hreserved
    | malformed _ hname => exact .inr hname
  · rintro ⟨session, event, count, rfl, key, hkey, hbad⟩
    cases hdoc : eventDocument event session count with
    | error error => exact ⟨error, hdoc⟩
    | ok doc =>
      obtain ⟨hfree, hname⟩ := writable_of_eventDocument hdoc key hkey
      rcases hbad with hbad | hbad
      · exact absurd hbad hfree
      · exact absurd (hbad.symm.trans hname) Bool.false_ne_true

/-! ## §3 Requests that were read -/

variable {doc : Document} {request : Request}

/-- The extras of a proper document can be used as extras. -/
theorem Document.Proper.extras (h : doc.Proper) {key : String} (hkey : key ∈ doc.extras.keys) :
    key ∉ reservedFields ∧ isElementName key.toList := by
  obtain ⟨field, hfield, rfl⟩ := List.mem_map.mp (Dict.mem_keys_ofList hkey)
  obtain ⟨hmem, hfree⟩ := List.mem_filter.mp hfield
  exact ⟨by simpa using hfree, h.names field hmem⟩

/-- The extras of an event that was read are those of its document. -/
theorem extra_of_eventOfDocument {event : Event} (h : eventOfDocument doc = .ok event) :
    event.extra = doc.extras := by
  obtain ⟨name, -, hkind⟩ := exists_of_bind_eq_ok h
  split at hkind
  · cases hkind
  · obtain ⟨source, -, hevent⟩ := exists_of_bind_eq_ok hkind
    cases hevent
    rfl

/-- The event of a request that was read is that of the document. -/
theorem eventOfDocument_of_ofDocument {session : Token} {event : Event} {count : UInt64}
    (h : Request.ofDocument doc = .ok (.event session event count)) :
    eventOfDocument doc = .ok event := by
  obtain ⟨number, -, hnumber⟩ := exists_of_bind_eq_ok h
  split at hnumber
  · cases hnumber
  obtain ⟨type, -, htype⟩ := exists_of_bind_eq_ok hnumber
  split at htype
  · cases htype
  · -- Only a document of the type of events is read as an event.
    obtain ⟨session', -, hsession⟩ := exists_of_bind_eq_ok htype
    obtain ⟨event', hevent, hrequest⟩ := exists_of_bind_eq_ok hsession
    cases hrequest
    exact hevent
  · cases htype

/-- A request was read from a proper document. -/
theorem Request.exists_document_of_ofText {text : String} (h : Request.ofText text = .ok request) :
    ∃ doc : Document, doc.Proper ∧ Request.ofDocument doc = .ok request := by
  obtain ⟨doc, hdoc, hrequest⟩ := exists_of_bind_eq_ok h
  exact ⟨doc, Document.proper_of_ofText hdoc, hrequest⟩

/-- **A request that was read can be written.** -/
theorem Request.exists_toDocument_of_ofText {text : String}
    (h : Request.ofText text = .ok request) : ∃ doc, request.toDocument = .ok doc := by
  cases request with
  | boot program count => exact ⟨bootDocument program count, rfl⟩
  | event session event count =>
    obtain ⟨doc, hproper, hdoc⟩ := exists_document_of_ofText h
    have hwritable : event.Writable := by
      intro key hkey
      rw [extra_of_eventOfDocument (eventOfDocument_of_ofDocument hdoc)] at hkey
      exact hproper.extras hkey
    exact ⟨_, eventDocument_of_writable hwritable session count⟩

/-- A request that was written is read as it was. -/
theorem Request.ofText_toDocument {request : Request} {doc : Document}
    (h : request.toDocument = .ok doc) : Request.ofText doc.text = .ok request := by
  cases request with
  | boot program count =>
    cases h
    exact ofText_bootDocument program count
  | event session event count => exact ofText_eventDocument h

/-! ## §4 The codec -/

/-- **Requests and their documents correspond.**  A request cannot be written if and only if it is
an event with an extra whose name cannot be used, and the first one in the order of the names is
what is reported.  Every request that can be written is read from its text as it was.  Every
request that was read, from whatever text, can be written, and so it is read again. -/
theorem Request.codec (request : Request) :
    ((∃ error, request.toDocument = .error error) ↔ request.HasUnusableExtra) ∧
      (∀ error, request.toDocument = .error error ↔ request.RefusedFor error) ∧
      (∀ doc, request.toDocument = .ok doc → Request.ofText doc.text = .ok request) ∧
      ∀ text, Request.ofText text = .ok request →
        ∃ doc, request.toDocument = .ok doc ∧ Request.ofText doc.text = .ok request := by
  refine ⟨request.exists_error_iff, request.toDocument_eq_error_iff, fun doc hdoc => ?_,
    fun text htext => ?_⟩
  · exact ofText_toDocument hdoc
  · obtain ⟨doc, hdoc⟩ := exists_toDocument_of_ofText htext
    exact ⟨doc, hdoc, ofText_toDocument hdoc⟩

end RemoteUi.Wire
