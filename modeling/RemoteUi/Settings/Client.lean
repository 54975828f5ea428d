import RemoteUi.Client.Link
import RemoteUi.Settings.Sources
import RemoteUi.Text.Blank

/-!
# Settings of the client

Where the settings of the client come from: each has a value of its own, which the settings file
may replace, and the environment the file's.  A file that cannot be read is passed over, and so is
a setting of the wrong kind.
-/

namespace RemoteUi

open RemoteUi.Text

/-- The settings of the client. -/
structure ClientSettings where
  serverUrl : String := "http://127.0.0.1:8077"
  /-- The path that requests are sent to. -/
  requestPath : String := defaultPath
  program : Option String := none
  /-- In simulation mode nothing is sent. -/
  isSimulation : Bool := false
  deriving DecidableEq, Repr

namespace ClientSettings

/-- The settings with what a settings file says. -/
def withFile (settings : ClientSettings) (file : SettingsFile) : ClientSettings where
  serverUrl := (file.text? "server_url").getD settings.serverUrl
  requestPath := (file.text? "request_prefix").getD settings.requestPath
  program := (file.text? "application_name").or settings.program
  isSimulation := (file.flag? "simulation_mode").getD settings.isSimulation

/-- Whether the value of a variable says yes. -/
def saysYes (value : String) : Bool :=
  ["1".toList, "true".toList, "yes".toList].contains (trim value.toList)

/-- The settings with what the environment says.  The address of the server has two variables, of
which the one with the common start of all variables counts more. -/
def withEnvironment (settings : ClientSettings) (env : Environment) : ClientSettings where
  serverUrl := ((env.get? "APP__SERVER_URL").or (env.get? "XUL_SERVER_URL")).getD settings.serverUrl
  requestPath := (env.get? "APP__REQUEST_PREFIX").getD settings.requestPath
  program := (env.get? "APP__APPLICATION_NAME").or settings.program
  isSimulation := ((env.get? "APP__SIMULATION_MODE").map saysYes).getD settings.isSimulation

/-- The settings from a settings file, if there is one, and the environment, with this reader. -/
def fromSources (read? : SettingsReader) (file : Option String) (env : Environment) :
    ClientSettings :=
  let settings : ClientSettings := {}
  let settings := match file.bind read? with
    | some file => settings.withFile file
    | none => settings
  settings.withEnvironment env

/-- The settings from a settings file, if there is one, and the environment. -/
def ofSources (file : Option String) (env : Environment) : ClientSettings :=
  fromSources .standard file env

end ClientSettings

end RemoteUi
