/-
Module: TrackBrowser.Settings.Basic
Purpose: The settings of the program and their defaults.
-/
import TrackBrowser.Cursor
import TrackBrowser.Track.Field

namespace TrackBrowser

/-- How lists behave and what their rows show.  Sort keys are applied in order, so the last one
weighs most. -/
structure ListSettings where
  scrollMode : ScrollMode := .normal
  scrolloff : Nat := 2
  wrap : Bool := false
  caseSensitiveSort : Bool := false
  regexSearch : Bool := false
  sort : List String := ["track", "disc", "album", "date", "albumartistsort"]
  columns : List Field := [.artist, .title, .album, .time]
  columnSeparator : String := " | "
  deriving DecidableEq, Repr, Inhabited

/-- Which files of a directory belong to the library. -/
structure LibrarySettings where
  extensions : List String := ["mp3", "flac", "wav", "ogg"]
  followLinks : Bool := true
  includeHidden : Bool := true
  recursive : Bool := true
  maxDepth : Option Nat := none
  deriving DecidableEq, Repr, Inhabited

/-- What the screen shows besides lists. -/
structure ScreenSettings where
  headerText : String := " ~ tracklist ~ "
  deriving DecidableEq, Repr, Inhabited

/-- Where the log goes and how much of it; without a file there is none. -/
structure LogSettings where
  file : Option String := none
  level : String := "info"
  deriving DecidableEq, Repr, Inhabited

/-- All settings. -/
structure Settings where
  list : ListSettings := {}
  library : LibrarySettings := {}
  screen : ScreenSettings := {}
  log : LogSettings := {}
  deriving DecidableEq, Repr, Inhabited

end TrackBrowser
