import Mathlib.Data.List.Induction
import RemoteUi.Proofs.Wire.RequestCodec

/-!
# The codec of documents

A document is made by setting fields.  However often and in whatever order fields are set, each is in
the document once, where it was set first and to what it was set last.  If the fields have names of
elements, the document is read from its markup as it is; and whatever was read is such a document.

* §1 the fields that were set;
* §2 the codec.
-/

namespace RemoteUi.Wire

namespace Document

/-! ## §1 Settings -/

/-- The document that comes of setting fields one after the other. -/
def ofSettings (settings : List (String × String)) : Document :=
  settings.foldl (fun doc setting => doc.insert setting.1 setting.2) ∅

/-- The value that a field was set to last. -/
def lastValue? (settings : List (String × String)) (key : String) : Option String :=
  (settings.filter (·.1 = key)).getLast?.map (·.2)

theorem ofSettings_append_singleton (settings : List (String × String)) (key value : String) :
    ofSettings (settings ++ [(key, value)]) = (ofSettings settings).insert key value := by
  rw [ofSettings, List.foldl_append]
  rfl

theorem lastValue?_append_singleton (settings : List (String × String)) (key value other : String) :
    lastValue? (settings ++ [(key, value)]) other =
      if key = other then some value else lastValue? settings other := by
  by_cases hkey : key = other <;> simp [lastValue?, List.filter_append, hkey]

/-- Setting a field changes the value of this field only. -/
theorem get?_insert (doc : Document) (key value other : String) :
    (doc.insert key value).get? other = if key = other then some value else doc.get? other := by
  obtain ⟨fields⟩ := doc
  simp only [get?, insert]
  induction fields with
  | nil => by_cases hkey : key = other <;> simp [setField, hkey]
  | cons field fields ih =>
    obtain ⟨k, v⟩ := field
    rw [setField]
    by_cases hk : k = key
    · subst hk
      by_cases hkey : k = other <;> simp [hkey]
    · rw [if_neg hk]
      by_cases hother : k = other
      · -- The field that is asked for stands first, and it is not the one that is set.
        subst hother
        simp [Ne.symm hk]
      · simpa [List.find?_cons, hother] using ih

/-- **The names of a document stand in the order in which they were set first.** -/
theorem map_fst_ofSettings (settings : List (String × String)) :
    (ofSettings settings).fields.map (·.1) = (settings.map (·.1)).eraseDups := by
  induction settings using List.reverseRecOn with
  | nil => rfl
  | append_singleton settings setting ih =>
    obtain ⟨key, value⟩ := setting
    rw [ofSettings_append_singleton, insert, map_fst_setField, ih, List.map_append,
      List.eraseDups_append]
    by_cases hmem : key ∈ settings.map (·.1)
    · simp [List.removeAll, hmem]
    · simp [List.removeAll, hmem, List.eraseDups_cons]

/-- **The value of a field is the one that it was set to last.** -/
theorem get?_ofSettings (settings : List (String × String)) (key : String) :
    (ofSettings settings).get? key = lastValue? settings key := by
  induction settings using List.reverseRecOn with
  | nil => rfl
  | append_singleton settings setting ih =>
    obtain ⟨k, v⟩ := setting
    rw [ofSettings_append_singleton, get?_insert, lastValue?_append_singleton, ih]

/-- What a document holds of the fields that were set. -/
structure Holds (doc : Document) (settings : List (String × String)) : Prop where
  /-- No name is there twice. -/
  nodup : (doc.fields.map (·.1)).Nodup
  /-- A name is there if its field was set. -/
  names : ∀ key, key ∈ doc.fields.map (·.1) ↔ key ∈ settings.map (·.1)
  /-- Of the settings of a field, the first one gives it its place. -/
  order : doc.fields.map (·.1) = (settings.map (·.1)).eraseDups
  /-- The last one gives it its value. -/
  values : ∀ key value, (key, value) ∈ doc.fields ↔ lastValue? settings key = some value
  get? : ∀ key, doc.get? key = lastValue? settings key

theorem nodup_ofSettings (settings : List (String × String)) :
    ((ofSettings settings).fields.map (·.1)).Nodup := by
  induction settings using List.reverseRecOn with
  | nil => exact .nil
  | append_singleton settings setting ih =>
    obtain ⟨key, value⟩ := setting
    rw [ofSettings_append_singleton]
    exact nodup_map_fst_insert ih key value

theorem holds_ofSettings (settings : List (String × String)) :
    (ofSettings settings).Holds settings where
  nodup := nodup_ofSettings settings
  names key := by rw [map_fst_ofSettings, List.mem_eraseDups]
  order := map_fst_ofSettings settings
  values key value := by
    rw [← get?_ofSettings, get?_eq_some_iff (nodup_ofSettings settings)]
  get? := get?_ofSettings settings

/-- A document that was made by setting fields with names of elements is proper. -/
theorem proper_ofSettings {settings : List (String × String)}
    (h : ∀ setting ∈ settings, isElementName setting.1.toList) : (ofSettings settings).Proper := by
  refine ⟨fun field hfield => ?_, nodup_ofSettings settings⟩
  have hname : field.1 ∈ settings.map (·.1) :=
    ((holds_ofSettings settings).names field.1).mp (List.mem_map.mpr ⟨field, hfield, rfl⟩)
  obtain ⟨setting, hsetting, heq⟩ := List.mem_map.mp hname
  exact heq ▸ h setting hsetting

/-! ## §2 The codec -/

/-- **Documents and their markup correspond.**  Whatever fields were set, the document holds each of
them once, where it was set first and to what it was set last; if they all have names of elements,
the document is read from its markup as it is.  Whatever was read, from any text, is a document with
distinct names of elements, and it is read from its own markup again. -/
theorem reads_back :
    (∀ settings : List (String × String), (ofSettings settings).Holds settings ∧
      ((∀ setting ∈ settings, isElementName setting.1.toList) →
        ofText (ofSettings settings).text = .ok (ofSettings settings))) ∧
      ∀ text doc, ofText text = .ok doc →
        (∀ field ∈ doc.fields, isElementName field.1.toList) ∧
          (doc.fields.map (·.1)).Nodup ∧ ofText doc.text = .ok doc := by
  refine ⟨fun settings => ⟨holds_ofSettings settings, fun hnames => ?_⟩, fun text doc hread => ?_⟩
  · exact ofText_text (proper_ofSettings hnames)
  · have hproper := proper_of_ofText hread
    exact ⟨hproper.names, hproper.nodup, ofText_text hproper⟩

/-- A field with the name of the root, which is set twice, and values that look like markup. -/
def markupSettings : List (String × String) :=
  [("xul", "</xul>"), ("note", " &lt;</note>\n"), ("xul", "")]

theorem reads_back_markupSettings :
    (ofSettings markupSettings).fields = [("xul", ""), ("note", " &lt;</note>\n")] ∧
      (∀ setting ∈ markupSettings, isElementName setting.1.toList) ∧
      ofText (ofSettings markupSettings).text = .ok (ofSettings markupSettings) := by
  have hnames : ∀ setting ∈ markupSettings, isElementName setting.1.toList := by decide +kernel
  exact ⟨rfl, hnames, (reads_back.1 markupSettings).2 hnames⟩

end Document

end RemoteUi.Wire
