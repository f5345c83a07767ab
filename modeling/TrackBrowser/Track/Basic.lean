/-
Module: TrackBrowser.Track.Basic
Purpose: Tracks and the text of their fields.
-/
import TrackBrowser.Track.Duration
import TrackBrowser.Track.Field

namespace TrackBrowser

/-- One logical track.  A data source gives it an identity and a position; a track that exists only
in a local library has neither.  The duration is in whole seconds. -/
structure Track where
  file : String := ""
  artist : String := ""
  albumArtist : String := ""
  artistSort : String := ""
  albumArtistSort : String := ""
  title : String := ""
  album : String := ""
  track : String := ""
  trackShort : String := ""
  disc : String := ""
  date : String := ""
  year : String := ""
  genre : String := ""
  composer : String := ""
  performer : String := ""
  comment : String := ""
  time : Option Nat := none
  id : Option Nat := none
  position : Option Nat := none
  selected : Bool := false
  deriving DecidableEq, Repr, Inhabited

namespace Track

/-- The seconds that a track adds to a total: none while its duration is unknown. -/
def seconds (track : Track) : Nat :=
  track.time.getD 0

/-- The text of a field. -/
def text (track : Track) : Field → String
  | .file => track.file
  | .artist => track.artist
  | .albumArtist => track.albumArtist
  | .artistSort => track.artistSort
  | .albumArtistSort => track.albumArtistSort
  | .title => track.title
  | .album => track.album
  | .track => track.track
  | .trackShort => track.trackShort
  | .disc => track.disc
  | .date => track.date
  | .year => track.year
  | .genre => track.genre
  | .composer => track.composer
  | .performer => track.performer
  | .comment => track.comment
  | .time => clockText track.time

/-- The year of a date: its first four characters. -/
def yearOf (date : String) : String :=
  String.ofList (date.toList.take 4)

/-- The number of a track such as `03/12`, without the total and without leading zeros. -/
def shortNumber (track : String) : String :=
  let number := Text.trim (track.toList.takeWhile (· != '/'))
  String.ofList (number.dropWhile (· == '0'))

/-- Fills the fields that derive from others, unless they are set already. -/
def deriveFields (track : Track) : Track :=
  { track with
    year := if track.year.isEmpty then yearOf track.date else track.year
    trackShort := if track.trackShort.isEmpty then shortNumber track.track else track.trackShort }

/-- A copy for another list: not selected, without identity and position. -/
def detached (track : Track) : Track :=
  { track with id := none, position := none, selected := false }

/-- The same track, not selected. -/
def deselected (track : Track) : Track :=
  { track with selected := false }

/-- The same track with its position changed, if it has one. -/
def shiftPosition (shift : Nat → Nat) (track : Track) : Track :=
  { track with position := track.position.map shift }

/-- The part of a path after its last slash. -/
def lastComponent (path : String) : String :=
  String.ofList (path.toList.reverse.takeWhile (· != '/')).reverse

/-- The line that shows a track: its non-blank fields, trimmed and joined by a separator.  When
there are none, the last component of its path is shown instead. -/
def row (track : Track) (columns : List Field) (separator : String) : String :=
  let parts := (columns.map fun field => Text.trimmed (track.text field)).filter (!·.isEmpty)
  if parts.isEmpty then lastComponent track.file else separator.intercalate parts

end Track

end TrackBrowser
