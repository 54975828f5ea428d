/-!
# Tables of a settings file

What the keys of a settings file stand for.  Texts and truth values are kept, since settings are
nothing else; of numbers, dates and times only the fact that they are there.

* §1 items and tables.  The keys of a table keep their order;
* §2 adding to tables.  A table can be spelled out in several places of a file, but no key of it
  twice.  What may still be added to a table depends on how it was introduced, which is why that
  is remembered.
-/

namespace RemoteUi.Toml

/-! ## §1 Items and tables -/

/-- How a table was introduced. -/
inductive Origin where
  /-- By a header of its own; the table of the whole file counts as such. -/
  | header
  /-- As part of the header of a table inside it. -/
  | implied
  /-- By a dotted key. -/
  | dotted
  deriving DecidableEq, Repr

/-- What a key stands for. -/
inductive Item where
  | text (content : List Char)
  | flag (isOn : Bool)
  /-- A number, a date or a time. -/
  | scalar
  | list (elements : List Item)
  /-- A table written on one line, to which nothing can be added. -/
  | inlineTable (entries : List (List Char × Item))
  | table (origin : Origin) (entries : List (List Char × Item))
  /-- A list of tables, of which only the last can still grow. -/
  | tables (elements : List (List (List Char × Item)))

/-- The keys of a table with what they stand for, in order. -/
abbrev Entries := List (List Char × Item)

instance : Inhabited Item := ⟨.scalar⟩

namespace Entries

/-- What a key stands for. -/
def get? (entries : Entries) (key : List Char) : Option Item :=
  (entries.find? (·.1 = key)).map (·.2)

/-- The entries with what a key stands for replaced, or added at the end. -/
def put (key : List Char) (item : Item) : Entries → Entries
  | [] => [(key, item)]
  | (k, i) :: rest => if k = key then (k, item) :: rest else (k, i) :: put key item rest

/-- The entries with a key at the end, whether it was there before or not. -/
def putLast (key : List Char) (item : Item) (entries : Entries) : Entries :=
  entries.filter (·.1 ≠ key) ++ [(key, item)]

/-! ## §2 Adding to tables -/

/-- A change of a table that depends on how the table was introduced; it may be refused. -/
abbrev Change := Origin → Entries → Option Entries

/-- Changes the table at the end of a path.  Tables missing on the way are introduced as `origin`
says: by a dotted key, which may not reach into a table that has a header, or by a header. -/
def changeAt (origin : Origin) (change : Change) : (path : List (List Char)) → Change
  | [], here, entries => change here entries
  | key :: path, _, entries =>
    match entries.get? key with
    | none => do
      let sub ← changeAt origin change path origin []
      return entries.put key (.table origin sub)
    | some (.tables elements) => do
      let last ← elements.getLast?
      let last ← changeAt origin change path .header last
      return entries.put key (.tables (elements.dropLast ++ [last]))
    | some (.table there sub) =>
      if origin = .dotted ∧ there = .header then none
      else do
        let sub ← changeAt origin change path there sub
        return entries.put key (.table there sub)
    | some _ => none

/-- Sets a new key in the table at the end of a dotted path. -/
def define (path : List (List Char)) (key : List Char) (item : Item) : Change :=
  changeAt .dotted (fun there entries =>
    -- A dotted key sets into tables introduced by dotted keys only, a plain key into all others.
    if (there = .dotted) = path.isEmpty || (entries.get? key).isSome then none
    else some (entries.put key item)) path

/-- Introduces the table at the end of a path by its header.  A table that was implied before takes
its place in the order by its header. -/
def openTable (path : List (List Char)) (key : List Char) : Change :=
  changeAt .implied (fun _ entries =>
    match entries.get? key with
    | none => some (entries.put key (.table .header []))
    | some (.table .implied sub) => some (entries.putLast key (.table .header sub))
    | some _ => none) path

/-- Introduces one more element of the list of tables at the end of a path by its header. -/
def openElement (path : List (List Char)) (key : List Char) : Change :=
  changeAt .implied (fun _ entries =>
    match entries.get? key with
    | none => some (entries.put key (.tables [[]]))
    | some (.tables elements) => some (entries.put key (.tables (elements ++ [[]])))
    | some _ => none) path

end Entries

end RemoteUi.Toml
