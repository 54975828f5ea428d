import RemoteUi.Toml.Scalar
import RemoteUi.Toml.Table

/-!
# Moments in tables

A date or a time can be handed on as a table with one reserved key, whose text says when.  A table
is taken for such a moment as soon as the reserved key comes first in it; then the text must be a
date, a time or both, and whatever else the table holds is passed over.  In any other place the
reserved key is a key like all others.
-/

namespace RemoteUi.Toml

/-- The reserved key. -/
def momentKey : List Char := "$__toml_private_datetime".toList

/-- Whether an item is a text that says when. -/
def Item.saysWhen : Item → Bool
  | .text content => isMoment content
  | _ => false

mutual

/-- Whether every table taken for a moment says when, in an item and inside of it. -/
def Item.isSound : Item → Bool
  | .list elements => Item.areSound elements
  | .inlineTable entries => Item.isSoundTable entries
  | .table _ entries => Item.isSoundTable entries
  | .tables elements => Item.areSoundTables elements
  | _ => true

/-- Whether all items of a list are sound. -/
def Item.areSound : List Item → Bool
  | [] => true
  | item :: items => item.isSound && Item.areSound items

/-- Whether a table is sound: it is a moment that says when, or all that it holds is sound. -/
def Item.isSoundTable : List (List Char × Item) → Bool
  | [] => true
  | (key, item) :: entries =>
    if key = momentKey then item.saysWhen else item.isSound && Item.holdsSound entries

/-- Whether all that a table holds is sound. -/
def Item.holdsSound : List (List Char × Item) → Bool
  | [] => true
  | (_, item) :: entries => item.isSound && Item.holdsSound entries

/-- Whether all tables of a list are sound. -/
def Item.areSoundTables : List (List (List Char × Item)) → Bool
  | [] => true
  | entries :: elements => Item.isSoundTable entries && Item.areSoundTables elements

end

end RemoteUi.Toml
