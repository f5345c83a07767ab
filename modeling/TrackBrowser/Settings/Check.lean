/-
Module: TrackBrowser.Settings.Check
Purpose: What settings must satisfy beyond the types of their values.
-/
import TrackBrowser.Number.Numeral
import TrackBrowser.Settings.Basic
import TrackBrowser.Text.Blank

namespace TrackBrowser

/-- What is wrong with settings. -/
inductive SettingsProblem where
  | noColumns
  | unknownSortKey (key : String)
  | unknownLevel (level : String)
  deriving DecidableEq, Repr, Inhabited

/-- The text of a problem. -/
def SettingsProblem.message : SettingsProblem → String
  | noColumns => "list.columns must name at least one field"
  | unknownSortKey key => "list.sort: unknown key `" ++ key ++ "`"
  | unknownLevel level => "log.level: unknown level `" ++ level ++ "`"

namespace LogSettings

/-- The names of the levels, the least talkative first. -/
def levelNames : List String :=
  ["error", "warn", "info", "debug", "trace"]

/-- Whether a text stands for a level: its name in any case, or its number from one. -/
def isLevel (text : String) : Bool :=
  match Numeral.count? text.toList with
  | some number => 1 ≤ number && number ≤ levelNames.length
  | none => levelNames.contains (Text.asciiLower text)

end LogSettings

namespace Settings

/-- The first sort key that names no field. -/
def unknownSortKey? (settings : Settings) : Option String :=
  settings.list.sort.find? fun key => (Field.ofName key).toOption.isNone

/-- The first problem of settings: without columns rows would be empty, and sort keys and the log
level have to be known. -/
def problem? (settings : Settings) : Option SettingsProblem :=
  if settings.list.columns.isEmpty then some .noColumns
  else
    match settings.unknownSortKey? with
    | some key => some (.unknownSortKey key)
    | none =>
      if LogSettings.isLevel settings.log.level then none
      else some (.unknownLevel settings.log.level)

end Settings

end TrackBrowser
