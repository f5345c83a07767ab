/-
Module: TrackBrowser.TrackList.Basic
Purpose: A sequence of tracks with its filtered view, its cursor and its totals.
-/
import TrackBrowser.Cursor
import TrackBrowser.ListError
import TrackBrowser.Matching
import TrackBrowser.Number.Limits

/-!
A `TrackList` owns the canonical sequence of its tracks.  The visible sequence is derived from it:
it holds the canonical indices, in ascending order, of the tracks that pass every filter.  Totals
and the visible sequence are kept up to date by each change rather than computed when asked for.
Durations are summed up in 64 bits: a sum that leaves them starts over, and what is then subtracted
from it stops at zero.
-/

namespace TrackBrowser

/-- A filter: a pattern, the fields it is tested on, and the handle by which it can be removed.  The
pattern is compiled once, when the filter is added. -/
structure Filter where
  handle : Nat
  pattern : String
  mask : FieldMask
  matcher : Matcher
  deriving DecidableEq, Repr, Inhabited

/-- Whether a track passes a filter. -/
def Filter.accepts (filter : Filter) (track : Track) : Bool :=
  filter.matcher.accepts track filter.mask

/-- How far a walk over the selected tracks has come: not started, at the visible index it gave
last, or at its end until it is started again. -/
inductive SelectionWalk where
  | fresh
  | at (index : Nat)
  | done
  deriving DecidableEq, Repr, Inhabited

/-- A canonical sequence of tracks with its filtered view, cursor and totals.  A read-only list
shows a source that cannot be edited. -/
structure TrackList where
  tracks : List Track := []
  visible : List Nat := []
  filters : List Filter := []
  nextHandle : Nat := 0
  totalSeconds : Nat := 0
  selectedCount : Nat := 0
  selectedSeconds : Nat := 0
  forwardWalk : SelectionWalk := .fresh
  backwardWalk : SelectionWalk := .fresh
  cursor : Cursor := {}
  readOnly : Bool := false
  regex : Bool := false
  caseSensitive : Bool := false
  redraw : Bool := true
  deriving DecidableEq, Repr, Inhabited

namespace TrackList

/-! ### Reading -/

/-- The number of visible tracks. -/
def size (list : TrackList) : Nat :=
  list.visible.length

/-- The track at a visible index. -/
def get? (list : TrackList) (index : Nat) : Option Track :=
  list.visible[index]?.bind fun canonical => list.tracks[canonical]?

/-- The visible tracks in order. -/
def visibleTracks (list : TrackList) : List Track :=
  list.visible.filterMap fun canonical => list.tracks[canonical]?

/-- The visible index of the cursor. -/
def cursorIndex? (list : TrackList) : Option Nat :=
  list.cursor.position? list.size

/-- The track under the cursor. -/
def cursorTrack? (list : TrackList) : Option Track :=
  list.cursorIndex?.bind list.get?

/-- The first visible index in the viewport. -/
def offset (list : TrackList) : Nat :=
  list.cursor.shownOffset list.size

/-- Whether a track passes every filter. -/
def passes (list : TrackList) (track : Track) : Bool :=
  list.filters.all fun filter => filter.accepts track

/-- The options from which every free-text match starts. -/
def baseOptions (list : TrackList) : MatchOptions :=
  { regex := list.regex }

/-! ### Settings -/

/-- Makes the list refuse edits, or accept them again. -/
def setReadOnly (list : TrackList) (readOnly : Bool) : TrackList :=
  { list with readOnly := readOnly }

/-- Lets patterns be regular expressions. -/
def setRegex (list : TrackList) (regex : Bool) : TrackList :=
  { list with regex := regex }

/-- Lets case matter in sorting. -/
def setCaseSensitive (list : TrackList) (caseSensitive : Bool) : TrackList :=
  { list with caseSensitive := caseSensitive }

/-- Asks for a redraw. -/
def markRedraw (list : TrackList) : TrackList :=
  { list with redraw := true }

/-- Forgets that a redraw was asked for. -/
def clearRedraw (list : TrackList) : TrackList :=
  { list with redraw := false }

/-! ### Cursor and viewport -/

/-- Changes the scroll mode. -/
def setScrollMode (list : TrackList) (mode : ScrollMode) : TrackList :=
  { list with cursor := list.cursor.setMode mode list.size, redraw := true }

/-- Changes the margin around the cursor. -/
def setScrolloff (list : TrackList) (scrolloff : Nat) : TrackList :=
  { list with cursor := list.cursor.setScrolloff scrolloff list.size }

/-- Turns wrapping around the ends on or off. -/
def setWrap (list : TrackList) (wrap : Bool) : TrackList :=
  { list with cursor := list.cursor.setWrap wrap }

/-- Changes the height of the viewport. -/
def setHeight (list : TrackList) (height : Nat) : TrackList :=
  if height = list.cursor.height then list
  else { list with cursor := list.cursor.setHeight height list.size, redraw := true }

/-- Takes over the result of a cursor operation. -/
def withCursor (list : TrackList) (result : Cursor × Bool) : TrackList × Bool :=
  ({ list with cursor := result.1, redraw := true }, result.2)

/-- Moves the cursor by some rows. -/
def moveCursor (list : TrackList) (delta : Int) : TrackList × Bool :=
  list.withCursor (list.cursor.move delta list.size)

/-- Puts the cursor on a visible index. -/
def putCursor (list : TrackList) (index : Nat) : TrackList × Bool :=
  list.withCursor (list.cursor.put index list.size)

/-- Scrolls the viewport by some rows. -/
def scroll (list : TrackList) (delta : Int) : TrackList × Bool :=
  list.withCursor (list.cursor.scroll delta list.size)

/-! ### Changing the visible sequence -/

/-- Starts both walks over the selected tracks afresh. -/
def restartWalks (list : TrackList) : TrackList :=
  { list with forwardWalk := .fresh, backwardWalk := .fresh }

/-- Ends every change of the visible sequence: walks start afresh, and the cursor is brought back
into the list, to its top when the list was empty before. -/
def settle (list : TrackList) (wasEmpty : Bool) : TrackList :=
  let cursor := if wasEmpty && 0 < list.size then list.cursor.reset else list.cursor
  { list.restartWalks with cursor := cursor.clamp list.size, redraw := true }

/-- The canonical indices of the tracks that pass every filter, in ascending order. -/
def passingIndices (list : TrackList) : List Nat :=
  (List.range list.tracks.length).filter fun canonical =>
    list.tracks[canonical]?.any list.passes

/-- Computes the visible sequence anew.  Selected tracks that are hidden by it lose their
selection. -/
def rebuild (list : TrackList) (wasEmpty : Bool) : TrackList :=
  let dropped := list.tracks.filter fun track => track.selected && !list.passes track
  let rebuilt :=
    { list with
      tracks := list.tracks.map fun track => if list.passes track then track else track.deselected
      visible := list.passingIndices
      selectedCount := list.selectedCount - dropped.length
      selectedSeconds := (dropped.map Track.seconds).foldl (· - ·) list.selectedSeconds }
  rebuilt.settle wasEmpty

/-- Counts a track in. -/
def addTotals (list : TrackList) (track : Track) : TrackList :=
  { list with
    totalSeconds := addWrapping list.totalSeconds track.seconds
    selectedCount := if track.selected then list.selectedCount + 1 else list.selectedCount
    selectedSeconds :=
      if track.selected then addWrapping list.selectedSeconds track.seconds
      else list.selectedSeconds }

/-- Counts a track out.  A total does not go below zero. -/
def subtractTotals (list : TrackList) (track : Track) : TrackList :=
  { list with
    totalSeconds := list.totalSeconds - track.seconds
    selectedCount := if track.selected then list.selectedCount - 1 else list.selectedCount
    selectedSeconds :=
      if track.selected then list.selectedSeconds - track.seconds else list.selectedSeconds }

/-- Inserts a track at a canonical index.  A track that the filters hide is not selected. -/
def place (list : TrackList) (canonical : Nat) (track : Track) : TrackList :=
  let passes := list.passes track
  let track := if passes then track else track.deselected
  let before := list.visible.takeWhile (· < canonical)
  let after := (list.visible.dropWhile (· < canonical)).map (· + 1)
  { list.addTotals track with
    tracks := list.tracks.insertIdx canonical track
    visible := before ++ (if passes then [canonical] else []) ++ after }.settle
      list.visible.isEmpty

/-- Removes the track at a canonical index.  The positions of the tracks after it move down. -/
def take (list : TrackList) (canonical : Nat) (track : Track) : TrackList :=
  let before := list.visible.takeWhile (· < canonical)
  let after := (list.visible.dropWhile (· < canonical)).filter (· != canonical)
  { list.subtractTotals track with
    tracks := list.tracks.take canonical ++
      (list.tracks.drop (canonical + 1)).map (Track.shiftPosition (· - 1))
    visible := before ++ after.map (· - 1) }.settle list.visible.isEmpty

/-- Removes the track at a canonical index, if there is one, and returns it. -/
def takeAt? (list : TrackList) (canonical : Nat) : Option (TrackList × Track) :=
  list.tracks[canonical]?.map fun track => (list.take canonical track, track)

/-! ### Editing -/

/-- Adds a track at the end and returns its canonical index. -/
def append (list : TrackList) (track : Track) : Except ListError (TrackList × Nat) :=
  if list.readOnly then .error .readOnly
  else .ok (list.place list.tracks.length track, list.tracks.length)

/-- Removes the first track that holds a position, if there is one. -/
def vacate (list : TrackList) (position : Nat) : TrackList :=
  match list.tracks.findIdx? fun track => track.position == some position with
  | some canonical => ((list.takeAt? canonical).map (·.1)).getD list
  | none => list

/-- Inserts a track at a position of its source and returns its canonical index.  A track that holds
the position already is replaced, and the positions of the tracks after it move up. -/
def insertAt (list : TrackList) (position : Nat) (track : Track) :
    Except ListError (TrackList × Nat) :=
  if list.readOnly then .error .readOnly
  else
    let vacated := list.vacate position
    let canonical := min position vacated.tracks.length
    let shifted :=
      { vacated with
        tracks := vacated.tracks.take canonical ++
          (vacated.tracks.drop canonical).map (Track.shiftPosition (· + 1)) }
    .ok (shifted.place canonical { track with position := some position }, canonical)

/-- Removes the track at a visible index and returns it. -/
def removeAt (list : TrackList) (index : Nat) : Except ListError (TrackList × Track) :=
  if list.readOnly then .error .readOnly
  else
    match list.visible[index]?.bind list.takeAt? with
    | some result => .ok result
    | none => .error (.outOfRange index list.size)

/-- Replaces all tracks.  This is how a list follows its source, so it ignores `readOnly`. -/
def load (list : TrackList) (tracks : List Track) : TrackList :=
  let selected := tracks.filter (·.selected)
  { list with
    tracks := tracks
    totalSeconds := sumWrapping (tracks.map Track.seconds)
    selectedCount := selected.length
    selectedSeconds := sumWrapping (selected.map Track.seconds) }.rebuild list.visible.isEmpty

/-- Removes all tracks. -/
def clear (list : TrackList) : TrackList :=
  { list with
    tracks := []
    visible := []
    totalSeconds := 0
    selectedCount := 0
    selectedSeconds := 0 }.settle false

/-- Replaces all tracks by detached copies of the visible tracks of another list. -/
def copyFrom (list other : TrackList) : TrackList :=
  list.load (other.visibleTracks.map Track.detached)

/-- Removes tracks from the end, at most `count` of them, as long as more than `limit` remain. -/
def dropLast (limit : Nat) : (count : Nat) → TrackList → TrackList
  | 0, list => list
  | count + 1, list =>
    if list.tracks.length ≤ limit then list
    else
      match list.takeAt? (list.tracks.length - 1) with
      | some (list, _) => dropLast limit count list
      | none => list

/-- Removes tracks from the end until at most `limit` remain. -/
def truncate (list : TrackList) (limit : Nat) : TrackList :=
  dropLast limit list.tracks.length list

end TrackList

end TrackBrowser
