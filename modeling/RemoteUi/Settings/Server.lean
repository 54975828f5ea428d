import RemoteUi.Server.Program
import RemoteUi.Settings.Sources

/-!
# Settings of the server

The settings of the server come from the same sources as those of the client.  Its settings file
must be a table of texts and nothing else.
-/

namespace RemoteUi

open RemoteUi.Text

/-- The settings of the server. -/
structure ServerSettings where
  /-- The address that the server listens at. -/
  address : String := "127.0.0.1:8077"
  /-- The path that takes requests. -/
  requestPath : String := "xul"
  /-- The program booted by a request that names none. -/
  defaultProgram : String := helloName
  deriving DecidableEq, Repr

namespace ServerSettings

/-- The text without the slashes at both ends. -/
def trimSlashes (path : String) : String :=
  let s := path.toList.dropWhile (· = '/')
  String.ofList (s.reverse.dropWhile (· = '/')).reverse

/-- The settings with what a settings file says. -/
def withFile (settings : ServerSettings) (file : SettingsFile) : ServerSettings where
  address := (file.text? "bind_addr").getD settings.address
  requestPath := (file.text? "request_prefix").getD settings.requestPath
  defaultProgram := (file.text? "default_application").getD settings.defaultProgram

/-- The settings with what the environment says. -/
def withEnvironment (settings : ServerSettings) (env : Environment) : ServerSettings where
  address := ((env.get? "APP__BIND_ADDR").or (env.get? "SERVER_BIND")).getD settings.address
  requestPath := (env.get? "APP__REQUEST_PREFIX").getD settings.requestPath
  defaultProgram := (env.get? "APP__DEFAULT_APPLICATION").getD settings.defaultProgram

/-- The settings from a settings file, if there is one, and the environment, with this reader.
Slashes around the path are dropped, wherever the path comes from. -/
def fromSources (read? : SettingsReader) (file : Option String) (env : Environment) :
    ServerSettings :=
  let settings : ServerSettings := {}
  let settings := match (file.bind read?).filter (·.allTexts) with
    | some file => settings.withFile file
    | none => settings
  let settings := settings.withEnvironment env
  { settings with requestPath := trimSlashes settings.requestPath }

/-- The settings from a settings file, if there is one, and the environment. -/
def ofSources (file : Option String) (env : Environment) : ServerSettings :=
  fromSources .standard file env

end ServerSettings

end RemoteUi
