/-
Module: TrackBrowser.TrackList.Searching
Purpose: Searching the visible tracks and moving between groups of them.
-/
import TrackBrowser.TrackList.Filtering

/-!
The visible sequence is searched as a circle: after its last track comes its first.  A search visits
an arc of it, from a first index to a last one, and takes at most as many steps as there are tracks.
-/

namespace TrackBrowser

/-- Walks along the indices that `step` leads through, for at most `fuel` of them, and returns the
first hit.  The walk ends on the index `stop`. -/
def seek (hit : Nat → Bool) (step : Nat → Nat) (stop : Nat) : (fuel : Nat) → Nat → Option Nat
  | 0, _ => none
  | fuel + 1, index =>
    if hit index then some index
    else if index = stop then none
    else seek hit step stop fuel (step index)

namespace TrackList

/-- Whether the track at a visible index matches. -/
def hits (list : TrackList) (matcher : Matcher) (mask : FieldMask) (index : Nat) : Bool :=
  (list.get? index).any fun track => matcher.accepts track mask

/-- Searches the visible indices from `first` through `last`, around the end of the list where
needed, or in reverse from `last` to `first`.  Indices past the end mean the last track. -/
def findWith (list : TrackList) (matcher : Matcher) (mask : FieldMask) (first last : Nat)
    (reverse : Bool) : Option Nat :=
  let n := list.size
  if n = 0 then none
  else
    let first := min first (n - 1)
    let last := min last (n - 1)
    if reverse then
      seek (list.hits matcher mask) (fun index => (index + n - 1) % n) first n last
    else
      seek (list.hits matcher mask) (fun index => (index + 1) % n) last n first

/-- Searches the visible indices from `first` through `last` for a pattern. -/
def find (list : TrackList) (pattern : String) (mask : FieldMask) (first last : Nat)
    (options : MatchOptions) : Option Nat :=
  list.findWith (Matcher.compile pattern options) mask first last options.reverse

/-- Searches all fields once around the list and moves the cursor to the hit.  The search starts
next to the cursor, or on it when `skipCurrent` is off. -/
def search (list : TrackList) (pattern : String) (backwards skipCurrent : Bool) :
    Except ListError (TrackList × Nat) :=
  match list.cursorIndex? with
  | none => .error .notFound
  | some cursor => do
    list.checkPattern pattern
    let n := list.size
    let (first, last) :=
      if backwards = skipCurrent then (cursor, (cursor + n - 1) % n)
      else ((cursor + 1) % n, cursor)
    match list.find pattern .all first last { list.baseOptions with reverse := backwards } with
    | none => throw .notFound
    | some found => return ((list.putCursor found).1, found)

/-- The start of the next run of tracks whose field differs from that of the cursor's track. -/
def nextGroup? (list : TrackList) (field : Field) : Option Nat := do
  let cursor ← list.cursorIndex?
  let track ← list.get? cursor
  list.find (track.text field) field.mask ((cursor + 1) % list.size) cursor
    { negate := true, exact := true }

/-- The start of the previous run of tracks whose field differs from that of the cursor's track.
The first search ends on the last track of that run, so a second one goes back to its first. -/
def previousGroup? (list : TrackList) (field : Field) : Option Nat := do
  let cursor ← list.cursorIndex?
  let options : MatchOptions := { negate := true, exact := true, reverse := true }
  let track ← list.get? cursor
  let runEnd ← list.find (track.text field) field.mask cursor
    ((cursor + list.size - 1) % list.size) options
  if runEnd = 0 then return 0
  let last ← list.get? runEnd
  match list.find (last.text field) field.mask 0 (runEnd - 1) options with
  | some before => return before + 1
  | none => return 0

/-- The visible index of the track with a given identity. -/
def findById? (list : TrackList) (id : Nat) : Option Nat :=
  list.visibleTracks.findIdx? fun track => track.id == some id

/-- The visible index of the track with a given path. -/
def findByFile? (list : TrackList) (file : String) : Option Nat :=
  list.visibleTracks.findIdx? fun track => track.file == file

end TrackList

end TrackBrowser
