/-
Module: TrackBrowser.Settings.Load
Purpose: Settings from a configuration file and the environment.
-/
import TrackBrowser.Config.Conversion
import TrackBrowser.Config.Environment
import TrackBrowser.Config.KeyPath
import TrackBrowser.Settings.Check
import TrackBrowser.Toml.Document

/-!
The environment is laid over the file, and both over the defaults.  A file that cannot be read as
TOML, a value that does not fit its setting, or settings that do not pass the checks make the
defaults stand in for everything.
-/

namespace TrackBrowser

/-- The scroll mode of a name. -/
def scrollModeOfName? (name : String) : Option ScrollMode :=
  match name with
  | "normal" => some .normal
  | "centered" => some .centered
  | "centred" => some .centered
  | "center" => some .centered
  | "relative" => some .relative
  | "proportional" => some .relative
  | _ => none

namespace ConfigValue

/-- A value as a scroll mode: its name, or a table with that name alone. -/
def toScrollMode? : ConfigValue → Option ScrollMode
  | text name => scrollModeOfName? name
  | table [(name, _)] => scrollModeOfName? name
  | _ => none

/-- A list of names as fields. -/
def toFields? (value : ConfigValue) : Option (List Field) := do
  (← value.toTexts?).mapM fun name => (Field.ofName name).toOption

/-- A section as the settings of lists. -/
def toListSettings? (section_ : ConfigValue) : Option ListSettings := do
  guard section_.holdsFields
  let default : ListSettings := {}
  return {
    scrollMode := ← section_.read? 0 "scroll_mode" toScrollMode? default.scrollMode
    scrolloff := ← section_.read? 1 "scrolloff" toCount? default.scrolloff
    wrap := ← section_.read? 2 "wrap" toFlag? default.wrap
    caseSensitiveSort :=
      ← section_.read? 3 "case_sensitive_sort" toFlag? default.caseSensitiveSort
    regexSearch := ← section_.read? 4 "regex_search" toFlag? default.regexSearch
    sort := ← section_.read? 5 "sort" toTexts? default.sort
    columns := ← section_.read? 6 "columns" toFields? default.columns
    columnSeparator := ← section_.read? 7 "column_separator" toText? default.columnSeparator }

/-- A section as the settings of the library. -/
def toLibrarySettings? (section_ : ConfigValue) : Option LibrarySettings := do
  guard section_.holdsFields
  let default : LibrarySettings := {}
  return {
    extensions := ← section_.read? 0 "extensions" toTexts? default.extensions
    followLinks := ← section_.read? 1 "follow_links" toFlag? default.followLinks
    includeHidden := ← section_.read? 2 "include_hidden" toFlag? default.includeHidden
    recursive := ← section_.read? 3 "recursive" toFlag? default.recursive
    maxDepth := ← section_.read? 4 "max_depth" (toOption? toCount?) default.maxDepth }

/-- A section as the settings of the screen. -/
def toScreenSettings? (section_ : ConfigValue) : Option ScreenSettings := do
  guard section_.holdsFields
  return { headerText := ← section_.read? 0 "header_text" toText? ({} : ScreenSettings).headerText }

/-- A section as the settings of the log. -/
def toLogSettings? (section_ : ConfigValue) : Option LogSettings := do
  guard section_.holdsFields
  let default : LogSettings := {}
  return {
    file := ← section_.read? 0 "file" (toOption? toText?) default.file
    level := ← section_.read? 1 "level" toText? default.level }

/-- A whole configuration as settings.  Names that no setting has are passed over. -/
def toSettings? (config : ConfigValue) : Option Settings := do
  return {
    list := ← config.read? 0 "list" toListSettings? {}
    library := ← config.read? 1 "library" toLibrarySettings? {}
    screen := ← config.read? 2 "ui" toScreenSettings? {}
    log := ← config.read? 3 "log" toLogSettings? {} }

end ConfigValue

/-- Why the defaults stand in for the settings that were given. -/
inductive SettingsFallback where
  | unreadable
  | invalid (problem : SettingsProblem)
  deriving DecidableEq, Repr, Inhabited

/-- The text of a fallback. -/
def SettingsFallback.message : SettingsFallback → String
  | unreadable => "failed to load config, using defaults"
  | invalid problem => "invalid config, using defaults: " ++ problem.message

namespace Settings

/-- The configuration of a file's text, if there is a file, and an environment. -/
def configOf? (file : Option String) (environment : Environment.Variables) :
    Option ConfigValue := do
  let fromFile ← (match file with
    | none => some []
    | some text => Toml.parse? text)
  return ((ConfigValue.table []).addSource fromFile).addSource (Environment.source environment)

/-- The settings of a file's text and an environment. -/
def read? (file : Option String) (environment : Environment.Variables) : Option Settings :=
  (configOf? file environment).bind ConfigValue.toSettings?

/-- The settings to use, and why they are the defaults if something was wrong. -/
def load (file : Option String) (environment : Environment.Variables) :
    Settings × Option SettingsFallback :=
  match read? file environment with
  | none => ({}, some .unreadable)
  | some settings =>
    match settings.problem? with
    | some problem => ({}, some (.invalid problem))
    | none => (settings, none)

end Settings

end TrackBrowser
