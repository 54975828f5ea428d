import RemoteUi.Text.Blank
import RemoteUi.Text.Letter
import RemoteUi.Wire.Entity

/-!
# Request documents

A request travels as a small markup document: a root element `xul` that holds one element per
field, in order, with the field's value as its text.

* §1 the document as an ordered list of fields, each name once;
* §2 how it is written;
* §3 how it is read.  Reading allows blanks between elements, a prolog, empty elements and every
  spelling of a value, and takes the last value of a field that is given twice.
-/

namespace RemoteUi.Wire

open RemoteUi.Text

/-! ## §1 Fields -/

/-- The fields of a request with their values, in the order in which they were first set. -/
structure Document where
  fields : List (String × String)
  deriving DecidableEq, Repr

namespace Document

/-- The document without fields. -/
def empty : Document := ⟨[]⟩

instance : EmptyCollection Document := ⟨empty⟩

instance : Inhabited Document := ⟨empty⟩

/-- The fields with `key` set to `value`: in its old place, or else at the end. -/
def setField (key value : String) : List (String × String) → List (String × String)
  | [] => [(key, value)]
  | (k, v) :: rest =>
    if k = key then (k, value) :: rest else (k, v) :: setField key value rest

/-- The document with `key` set to `value`. -/
def insert (doc : Document) (key value : String) : Document :=
  ⟨setField key value doc.fields⟩

/-- The value of a field, if it is set. -/
def get? (doc : Document) (key : String) : Option String :=
  (doc.fields.find? (·.1 = key)).map (·.2)

end Document

/-! ## §2 Writing -/

/-- Whether a text may be the name of an element: a letter or an underscore, then letters,
numerals, underscores, hyphens and full stops. -/
def isElementName : List Char → Bool
  | [] => false
  | c :: rest =>
    (isLetter c || c = '_') &&
      rest.all fun c => isLetterOrNumeral c || c = '_' || c = '-' || c = '.'

/-- Refuses a text that is no element name. -/
def checkElementName (name : List Char) : Except Malformation Unit :=
  if isElementName name then .ok () else .error (.invalidName (String.ofList name))

/-- The start tag of an element. -/
def startTag (name : List Char) : List Char := '<' :: (name ++ ['>'])

/-- The end tag of an element. -/
def endTag (name : List Char) : List Char := '<' :: '/' :: (name ++ ['>'])

/-- The name of the root element. -/
def rootName : List Char := "xul".toList

/-- The prolog that every written document starts with. -/
def prolog : List Char := "<?xml version=\"1.0\" encoding=\"UTF-8\"?>".toList

/-- A field as an element with its value as the text. -/
def writeField (field : String × String) : List Char :=
  startTag field.1.toList ++ (Entity.escape field.2.toList ++ endTag field.1.toList)

/-- The document as markup. -/
def Document.write (doc : Document) : List Char :=
  prolog ++ (startTag rootName ++ (doc.fields.flatMap writeField ++ endTag rootName))

/-- The document as a text of markup. -/
def Document.text (doc : Document) : String := String.ofList doc.write

/-! ## §3 Reading -/

/-- A field as it was read: its name, its value, and the text after its element. -/
structure ParsedField where
  name : List Char
  value : List Char
  rest : List Char

/-- The field whose element stands at the start of a text. -/
def readField (s : List Char) : Except Malformation ParsedField :=
  match afterMark? ['<'] s with
  | none => .error .missingField
  | some s =>
    match splitAtMark? ['>'] s with
    | none => .error .unterminatedStartTag
    | some (tag, body) =>
      if tag.getLast? = some '/' then do
        -- An element without content: blanks may stand before the slash.
        let name := trimEnd tag.dropLast
        checkElementName name
        return ⟨name, [], body⟩
      else do
        checkElementName tag
        -- The value goes up to the first end tag of the same name, whatever stands in between.
        match splitAtMark? (endTag tag) body with
        | none => throw (.missingEndTag (String.ofList tag))
        | some (raw, rest) => return ⟨tag, ← Entity.unescape raw, rest⟩

/-- An element is at least as long as a start tag, so the text after it is shorter. -/
theorem length_rest_of_readField {s : List Char} {e : ParsedField} (h : readField s = .ok e) :
    e.rest.length < s.length := by
  unfold readField at h
  -- Without an opening angle bracket there is no element.
  split at h
  · simp at h
  next s' hs =>
  split at h
  · simp at h
  next tag body htag =>
  have hs' := congrArg List.length (afterMark?_eq_some_iff.mp hs)
  have hbody := length_of_splitAtMark? htag
  simp only [List.length_cons, List.length_nil, List.length_append] at hs' hbody
  -- The rest is what follows the start tag, or what follows the end tag after it.
  split at h
  · cases hname : checkElementName (trimEnd tag.dropLast) <;>
      simp [hname, bind, Except.bind, pure, Except.pure] at h
    subst h
    simp only
    omega
  · cases hname : checkElementName tag <;> simp [hname, bind, Except.bind] at h
    split at h
    · simp [throw, throwThe, MonadExceptOf.throw] at h
    · next raw rest hend =>
      have hrest := length_of_splitAtMark? hend
      cases hraw : Entity.unescape raw <;> simp [hraw, pure, Except.pure] at h
      subst h
      simp only
      omega

/-- Only blanks may follow the root element. -/
def checkEnd (rest : List Char) : Except Malformation Unit :=
  if rest.all isBlank then .ok () else .error .contentAfterRoot

/-- Reads the fields up to the end tag of the root and adds them to `doc`. -/
def readFields (doc : Document) (s : List Char) : Except Malformation Document :=
  match afterMark? (endTag rootName) (trimStart s) with
  | some rest => (checkEnd rest).map fun _ => doc
  | none =>
    match _h : readField (trimStart s) with
    | .error cause => .error cause
    | .ok e => readFields (doc.insert (String.ofList e.name) (String.ofList e.value)) e.rest
  termination_by s.length
  decreasing_by
    have := length_rest_of_readField _h
    have := length_trimStart_le s
    omega

/-- The text after the prolog, or the whole text if it has none. -/
def skipProlog (s : List Char) : Except Malformation (List Char) :=
  match afterMark? "<?".toList s with
  | none => .ok s
  | some s =>
    match splitAtMark? "?>".toList s with
    | none => .error .unterminatedProlog
    | some (_, rest) => .ok (trimStart rest)

/-- The document that a markup text denotes, or the first thing wrong with it. -/
def Document.read (s : List Char) : Except Malformation Document := do
  let s ← skipProlog (trimStart s)
  match afterMark? "<xul/>".toList s with
  | some rest => (checkEnd rest).map fun _ => ∅
  | none =>
    match afterMark? (startTag rootName) s with
    | none => throw .missingRoot
    | some rest => readFields ∅ rest

/-- The document that a text denotes, as an error of the wire if it denotes none. -/
def Document.ofText (text : String) : Except WireError Document :=
  (read text.toList).mapError .malformed

end RemoteUi.Wire
