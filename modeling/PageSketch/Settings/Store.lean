import PageSketch.Host
import PageSketch.Settings.Basic
import PageSketch.Text.Quoted

/-!
# Settings on disk

Settings are kept in one file. A file that is not there holds no settings; it is made, with the
directories above it, when settings are saved.
-/

namespace PageSketch

/-- Why settings could not be loaded or saved. -/
inductive SettingsError where
  | file (fault : FileFault)
  | malformed (fault : SettingsFault)

/-- The message of an error. -/
def SettingsError.message : SettingsError → String
  | file fault => "IO error: " ++ fault.message
  | malformed fault => "Failed to parse settings: " ++ fault.message

namespace Settings

/-- The place of the settings below the directory for the settings of programs. -/
def standardPath (directory : Path) : Path := (directory.child "nl2ui").child "settings.json"

/-- What is noted when settings have been loaded. -/
def loadedNote (path : Path) : LogEntry :=
  .plain .debug .settings ("Loaded settings from " ++ Text.quoted path.text)

/-- What is noted when settings have been saved. -/
def savedNote (path : Path) : LogEntry :=
  .plain .info .settings ("Settings saved to " ++ Text.quoted path.text)

variable {m : Type → Type} [Monad m]

/-- Loads the settings of a file. -/
def load (host : Host m) (path : Path) : m (Except SettingsError Settings) := do
  match ← host.hasEntry path with
  | .error fault => return .error (.file fault)
  | .ok false => return .ok empty
  | .ok true =>
    match ← host.readText path with
    | .error fault => return .error (.file fault)
    | .ok text =>
      match read text with
      | .error fault => return .error (.malformed fault)
      | .ok settings =>
        host.note (loadedNote path)
        return .ok settings

/-- Saves settings to a file. -/
def save (host : Host m) (path : Path) (settings : Settings) : m (Except SettingsError Unit) := do
  match ← host.writeText path settings.text with
  | .error fault => return .error (.file fault)
  | .ok () =>
    host.note (savedNote path)
    return .ok ()

end Settings

end PageSketch
