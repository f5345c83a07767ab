/-
Module: TrackBrowser.Main
Purpose: The command line.
-/
import TrackBrowser.Browser.Opening
import TrackBrowser.Screen.Draw
import TrackBrowser.Settings.Load
import TrackBrowser.Settings.Location

/-!
The arguments are the files of the library.  Every line of the standard input is one key press: a
character, `ctrl-` with a character, or the name of a key.  The screen is printed at the start and
after each key.
-/

namespace TrackBrowser.CommandLine

/-- The variables that a setting can come from. -/
def settingVariables : List String :=
  ["LIST__SCROLL_MODE", "LIST__SCROLLOFF", "LIST__WRAP", "LIST__CASE_SENSITIVE_SORT",
    "LIST__REGEX_SEARCH", "LIST__COLUMN_SEPARATOR", "LIBRARY__FOLLOW_LINKS",
    "LIBRARY__INCLUDE_HIDDEN", "LIBRARY__RECURSIVE", "LIBRARY__MAX_DEPTH", "UI__HEADER_TEXT",
    "LOG__FILE", "LOG__LEVEL"].map ("TRACKLIST__" ++ ·)

/-- The variables that the location of the configuration file depends on. -/
def locationVariables : List String :=
  ["TRACKLIST_CONFIG_PATH", "XDG_CONFIG_HOME", "HOME"]

/-- The variables among these that are set. -/
def readVariables (names : List String) : IO Environment.Variables := do
  let mut environment := []
  for name in names do
    if let some value ← IO.getEnv name then
      environment := environment ++ [(name, value)]
  return environment

/-- The text of a file that may be missing. -/
def readText? (path : String) : IO (Option String) :=
  try return some (← IO.FS.readFile path) catch _ => return none

/-- The content of a file; nothing when it cannot be read. -/
def readContent (path : String) : IO (List UInt8) :=
  try return (← IO.FS.readBinFile path).toList catch _ => return []

/-- The names that lead to a file. -/
def placeOf (path : String) : Place :=
  (FileName.ofPath path).filter fun part => part != "" && part != "."

/-- The folder that holds the files. -/
def readFolder (paths : List String) : IO Entry := do
  let mut top := Entry.folder []
  for path in paths do
    top := top.put (placeOf path) (.file (← readContent path))
  return top

/-- The size of the screen in one direction. -/
def readSize (variable_ : String) (default : Nat) : IO Nat := do
  let text ← IO.getEnv variable_
  return (text.bind fun text => Numeral.count? text.toList).getD default

/-- Prints the screen and lets the views know its size. -/
def showScreen (session : Session) (settings : Settings) (width height : Nat) : IO Session := do
  let (canvas, browser) := Screen.draw session.browser settings width height
  for line in canvas.lines do
    IO.println line
  return { session with browser := browser.clearRedraw }

/-- Handles key presses until one of them ends the program or there are no more. -/
partial def run (input : IO.FS.Stream) (settings : Settings) (width height : Nat)
    (session : Session) : IO Unit := do
  let session ← showScreen session settings width height
  let line ← input.getLine
  if !line.isEmpty then
    let name := line.toList.filter fun c => c != '\n' && c != '\r'
    match session.press settings (Key.ofName name) with
    | (_, true) => return
    | (session, false) => run input settings width height session

end TrackBrowser.CommandLine

open TrackBrowser CommandLine in
/-- Loads the settings, opens the library and handles key presses. -/
def main (paths : List String) : IO Unit := do
  let located := Environment.configPath? (← readVariables locationVariables)
  let file ← (match located with
    | some path => readText? path
    | none => pure none)
  let (settings, fallback) := Settings.load file (← readVariables settingVariables)
  if let some reason := fallback then
    IO.eprintln ("tracklist: " ++ reason.message)
  let browser := Browser.openFolder (← readFolder paths) "" settings
  let width ← readSize "COLUMNS" 80
  let height ← readSize "LINES" 24
  run (← IO.getStdin) settings width height { browser := browser }
