import Templating.Form.Settings
import Templating.Text.Bytes

/-!
# The settings file

Settings are read from a file in a directory of their own.  Without the file
the defaults hold; a file that cannot be read or does not hold settings is an
error.
-/

namespace Templating

/-- The name of the settings file. -/
def settingsFileName : String := "tempera.config.json"

/-- What is found under the name of the settings file. -/
inductive SettingsEntry where
  | missing
  | directory
  | content (data : Bytes)

/-- Why settings could not be loaded. -/
inductive SettingsError where
  /-- A directory cannot be read as a file. -/
  | isDirectory
  /-- The file is not UTF-8. -/
  | invalidText
  /-- The file does not hold the JSON form of settings. -/
  | invalidJson (fault : JsonFault)
  deriving DecidableEq, Repr

/-- The text of an error up to its cause. -/
def SettingsError.message (error : SettingsError) (directory : String) : String :=
  let action :=
    match error with
    | .isDirectory | .invalidText => "read"
    | .invalidJson _ => "parse"
  "failed to " ++ action ++ " " ++ directory ++ "/" ++ settingsFileName ++ ": "

/-- The settings that an entry of a directory holds. -/
def loadSettings : SettingsEntry → Except SettingsError Settings
  | .missing => .ok default
  | .directory => .error .isDirectory
  | .content data =>
      match Text.decode? data with
      | none => .error .invalidText
      | some text =>
          match JsonForm.parse text with
          | .ok settings => .ok settings
          | .error fault => .error (.invalidJson fault)

end Templating
