/-
Module: TrackBrowser.Settings.Location
Purpose: Where the configuration file is.
-/
import TrackBrowser.Config.Environment

/-!
A variable may name the file.  Otherwise it is in a folder of its own inside the folder for
configurations, which another variable may name and which else is inside the home folder.  A
variable that is set to the empty text counts as set.
-/

namespace TrackBrowser

/-- A path inside a folder.  The empty text stands for the folder that the program runs in. -/
def joinPath (folder inner : String) : String :=
  match folder.toList.getLast? with
  | none => inner
  | some '/' => folder ++ inner
  | some _ => folder ++ "/" ++ inner

namespace Environment

/-- The folder for configurations. -/
def configFolder? (environment : Variables) : Option String :=
  match environment.lookup "XDG_CONFIG_HOME" with
  | some folder => some folder
  | none => (environment.lookup "HOME").map fun home => joinPath home ".config"

/-- The configuration file that is used unless another is named. -/
def defaultConfigPath? (environment : Variables) : Option String :=
  (configFolder? environment).map fun folder =>
    joinPath (joinPath folder "tracklist") "config.toml"

/-- The configuration file. -/
def configPath? (environment : Variables) : Option String :=
  match environment.lookup "TRACKLIST_CONFIG_PATH" with
  | some path => some path
  | none => defaultConfigPath? environment

end Environment

end TrackBrowser
