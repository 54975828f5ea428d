import Mathlib.Data.List.DropRight
import RemoteUi.Settings.Server

/-!
# The path of the server

The path that takes requests comes from a settings file, from the environment, or from neither, and
people write it with slashes around it or without.  Whatever the sources say, and whatever finds out
what a settings file says, the path of the server has no slash at either end; and a path that was
written without them is taken as it is.
-/

namespace RemoteUi.ServerSettings

/-- A path has no slash at either end. -/
structure IsTrimmed (path : String) : Prop where
  head : path.toList.head? ≠ some '/'
  last : path.toList.getLast? ≠ some '/'

theorem toList_trimSlashes (path : String) : (trimSlashes path).toList =
    (path.toList.dropWhile (· = '/')).rdropWhile (· = '/') := by
  rw [trimSlashes, String.toList_ofList, List.rdropWhile]

theorem head?_dropWhile_slash_ne (s : List Char) :
    (s.dropWhile (· = '/')).head? ≠ some '/' := by
  intro hhead
  have hnot := List.head?_dropWhile_not (fun c => decide (c = '/')) s
  simp [hhead] at hnot

theorem isTrimmed_trimSlashes (path : String) : IsTrimmed (trimSlashes path) := by
  constructor
  case head =>
    -- What is left at the end is a start of what was left before, so it has the same head.
    obtain ⟨rest, hrest⟩ :=
      List.rdropWhile_prefix (fun c => decide (c = '/')) (path.toList.dropWhile (· = '/'))
    intro hhead
    apply head?_dropWhile_slash_ne path.toList
    rw [← hrest, ← toList_trimSlashes, List.head?_append, hhead, Option.some_or]
  case last =>
    rw [toList_trimSlashes, List.rdropWhile, List.getLast?_reverse]
    exact head?_dropWhile_slash_ne _

/-- A path is taken as it is exactly if it has no slash at either end. -/
theorem trimSlashes_eq_self_iff {path : String} : trimSlashes path = path ↔ IsTrimmed path := by
  constructor
  · intro h
    exact h ▸ isTrimmed_trimSlashes path
  · rintro ⟨hhead, hlast⟩
    have hstart : path.toList.dropWhile (· = '/') = path.toList := by
      rw [List.dropWhile_eq_self_iff]
      intro hpos
      simpa [List.head?_eq_getElem?, hpos] using hhead
    have hend : path.toList.rdropWhile (· = '/') = path.toList := by
      rw [List.rdropWhile_eq_self_iff]
      intro hne
      simpa [List.getLast?_eq_some_getLast hne] using hlast
    rw [← String.toList_inj, toList_trimSlashes, hstart, hend]

/-- **The path of the server has no slash at either end**, whatever its sources say. -/
theorem isTrimmed_requestPath (read? : SettingsReader) (file : Option String) (env : Environment) :
    IsTrimmed (fromSources read? file env).requestPath :=
  isTrimmed_trimSlashes _

end RemoteUi.ServerSettings
