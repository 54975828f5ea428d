import RemoteUi.Dict
import RemoteUi.Toml.File

/-!
# Sources of settings

Settings come from a settings file and from the environment.  What a settings file says is found by a
reader.  The language of settings files belongs to neither end, so the reader is a parameter of the
settings of both: whatever is proved of the settings holds with every reader.

* §1 the environment;
* §2 readers of settings files;
* §3 the standard reader.
-/

namespace RemoteUi

/-! ## §1 The environment -/

/-- The variables of the environment. -/
abbrev Environment := Dict String

/-! ## §2 Readers -/

/-- What a settings file says. -/
structure SettingsFile where
  /-- The text that a key stands for, if it stands for a text. -/
  text? (key : String) : Option String
  /-- The truth value that a key stands for, if it stands for one. -/
  flag? (key : String) : Option Bool
  /-- Every key stands for a text. -/
  allTexts : Bool

/-- A reader of settings files: it finds what a file says, unless something is wrong with the file. -/
abbrev SettingsReader := String → Option SettingsFile

/-! ## §3 The standard reader -/

/-- The reader that both ends are run with. -/
def SettingsReader.standard : SettingsReader := fun file =>
  (Toml.read? file).map fun entries =>
    { text? := entries.text?, flag? := entries.flag?, allTexts := entries.allTexts }

end RemoteUi
