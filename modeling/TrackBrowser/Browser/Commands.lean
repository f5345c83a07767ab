/-
Module: TrackBrowser.Browser.Commands
Purpose: What can be done to the active view: search, filter, select, edit playlists.
-/
import TrackBrowser.Browser.Basic
import TrackBrowser.TrackList.Ordering
import TrackBrowser.TrackList.Selection

/-!
No command fails: what goes wrong ends up in the status line.
-/

namespace TrackBrowser.Browser

open Text (decimal)

/-- Shows the outcome of a command. -/
def report (browser : Browser) : Except ListError String → Browser
  | .ok message => browser.setStatus message
  | .error failure => browser.setStatus failure.message

/-! ### The input line -/

/-- Begins a search at the cursor. -/
def beginSearch (browser : Browser) : Browser :=
  { browser with
    searchOrigin := browser.activeView.cursorIndex?
    inputMode := .search
    input := ""
    redraw := true }

/-- Begins the pattern of a filter. -/
def beginFilter (browser : Browser) : Browser :=
  match browser.activeList? with
  | none => browser.setStatus "no filter on this view"
  | some _ => { browser with inputMode := .filter, input := "", redraw := true }

/-- Searches anew from where the search began, because the input line has changed. -/
def inputChanged (browser : Browser) : Browser :=
  let browser := browser.markRedraw
  if browser.inputMode ≠ .search then browser
  else
    match browser.activeList? with
    | none => browser
    | some list =>
      let (list, _) := list.putCursor (browser.searchOrigin.getD 0)
      if browser.input.isEmpty then browser.setActiveList list
      else
        match list.search browser.input false false with
        | .ok (list, _) => (browser.setActiveList list).clearStatus
        | .error failure => (browser.setActiveList list).setStatus failure.message

/-- Adds a character to the input line. -/
def pushInput (browser : Browser) (c : Char) : Browser :=
  { browser with input := browser.input.push c }.inputChanged

/-- Removes the last character of the input line. -/
def popInput (browser : Browser) : Browser :=
  { browser with input := String.ofList browser.input.toList.dropLast }.inputChanged

/-- Adds a filter to the active list. -/
def addFilter (browser : Browser) (pattern : String) : Browser :=
  match browser.activeList? with
  | none => browser.report (.error .notFound)
  | some list =>
    match list.checkPattern pattern with
    | .error failure => browser.report (.error failure)
    | .ok _ =>
      let (list, _) := list.addFilter pattern .all
      (browser.setActiveList list).report
        (.ok ("filter `" ++ pattern ++ "`: " ++ decimal list.size ++ " shown"))

/-- Ends the input: keeps the hit of the search, or adds the filter. -/
def commitInput (browser : Browser) : Browser :=
  let pattern := browser.input
  let ended := { browser with input := "", inputMode := .normal }
  let committed :=
    match browser.inputMode with
    | .normal => ended
    | .search =>
      { ended with
        lastSearch := if pattern.isEmpty then ended.lastSearch else some pattern
        searchOrigin := none }
    | .filter => ended.addFilter pattern
  committed.markRedraw

/-- Gives the input up; a search puts the cursor back. -/
def cancelInput (browser : Browser) : Browser :=
  let restored :=
    if browser.inputMode = .search then
      match browser.searchOrigin with
      | some origin =>
        { browser.modifyActiveList fun list => (list.putCursor origin).1 with
          searchOrigin := none }
      | none => browser
    else browser
  { restored with inputMode := .normal, input := "", redraw := true }

/-! ### Searching and filtering -/

/-- Goes to the next or previous hit of the last search. -/
def repeatSearch (browser : Browser) (backwards : Bool) : Browser :=
  match browser.lastSearch with
  | none => browser.setStatus "no previous search"
  | some pattern =>
    match browser.activeList? with
    | none => browser.report (.error .notFound)
    | some list =>
      match list.search pattern backwards true with
      | .error failure => browser.report (.error failure)
      | .ok (list, found) =>
        (browser.setActiveList list).report (.ok ("/" ++ pattern ++ " at " ++ decimal (found + 1)))

/-- Removes the filter added last. -/
def popFilter (browser : Browser) : Browser :=
  match browser.activeList?.bind TrackList.popFilter? with
  | none => browser.report (.error .notFound)
  | some (list, filter) =>
    (browser.setActiveList list).report (.ok ("removed filter `" ++ filter.pattern ++ "`"))

/-- Removes every filter. -/
def clearFilters (browser : Browser) : Browser :=
  browser.modifyActiveList TrackList.clearFilters

/-- Goes to the start of the next or previous run of equal values of a field. -/
def jumpGroup (browser : Browser) (field : Field) (forward : Bool) : Browser :=
  match browser.activeList? with
  | none => browser
  | some list =>
    match if forward then list.nextGroup? field else list.previousGroup? field with
    | some index => browser.setActiveList (list.putCursor index).1
    | none => browser.setStatus ("no other " ++ field.name)

/-- Changes to the next scroll mode. -/
def cycleScrollMode (browser : Browser) : Browser :=
  let mode := browser.activeView.scrollMode.next
  (browser.modifyActive fun view => view.setScrollMode mode).setStatus
    ("scroll mode: " ++ mode.name)

/-! ### Selecting -/

/-- Selects or deselects the track under the cursor and goes one row down. -/
def toggleSelect (browser : Browser) : Browser :=
  browser.modifyActiveList fun list =>
    match list.cursorIndex? with
    | none => list
    | some index => ((list.select index .toggle).1.moveCursor 1).1

/-- Selects every track with the same value of a field as the track under the cursor. -/
def selectSame (browser : Browser) (field : Field) : Browser :=
  match browser.activeList? with
  | none => browser.report (.error .notFound)
  | some list =>
    match list.cursorTrack? with
    | none => browser.report (.error .notFound)
    | some track =>
      let (list, changed) := list.selectMatching (track.text field) field.mask 0 .select
      (browser.setActiveList list).report
        (.ok ("selected " ++ decimal changed ++ " more by " ++ field.name))

/-- Deselects every visible track. -/
def deselectAll (browser : Browser) : Browser :=
  browser.modifyActiveList fun list => (list.selectAll .deselect).1

/-! ### Editing playlists -/

/-- The first playlist; one is added if there is none. -/
def ensurePlaylist (browser : Browser) : Browser × Nat :=
  match browser.findView? .playlist with
  | some index => (browser, index)
  | none => browser.addView (View.ofTracks .playlist "Playlist" browser.defaults.newList)

/-- Takes the selected tracks out of the selection one by one, at most `fuel` of them, and returns
them in order. -/
def drainSelection : (fuel : Nat) → TrackList → TrackList × List Track
  | 0, list => (list, [])
  | fuel + 1, list =>
    match list.popSelected with
    | (list, none) => (list, [])
    | (list, some index) =>
      let (drained, tracks) := drainSelection fuel list
      (drained, ((list.get? index).toList ++ tracks))

/-- Appends tracks one by one and counts them; the first failure ends it. -/
def appendAll (list : TrackList) (tracks : List Track) : TrackList × Except ListError Nat :=
  tracks.foldl
    (fun (state : TrackList × Except ListError Nat) track =>
      match state.2 with
      | .error failure => (state.1, .error failure)
      | .ok count =>
        match state.1.append track with
        | .ok (list, _) => (list, .ok (count + 1))
        | .error failure => (state.1, .error failure))
    (list, .ok 0)

/-- Copies the selected tracks, or the track under the cursor, to the playlist.  The selection is
taken away as it is copied. -/
def addToPlaylist (browser : Browser) : Browser :=
  match browser.activeList? with
  | none => browser
  | some list =>
    let (drained, picked) := drainSelection (list.size + 1) list.restartWalks
    let (browser, target) := (browser.setActiveList drained).ensurePlaylist
    match browser.views[target]?.bind View.list? with
    | none => browser.report (.error .notFound)
    | some playlist =>
      let (playlist, outcome) := appendAll playlist (picked.map Track.detached)
      let browser :=
        { browser with
          views := browser.views.modify target fun view => view.modifyList fun _ => playlist }
      browser.report (outcome.map fun count => "added " ++ decimal count ++ " to playlist")

/-- The visible indices that a forward walk gives from now on, at most `fuel` of them. -/
def collectSelected : (fuel : Nat) → TrackList → TrackList × List Nat
  | 0, list => (list, [])
  | fuel + 1, list =>
    match list.nextSelected with
    | (list, none) => (list, [])
    | (list, some index) =>
      let (walked, indices) := collectSelected fuel list
      (walked, index :: indices)

/-- Removes the tracks at some visible indices one by one; the first failure ends it. -/
def removeEach (list : TrackList) (indices : List Nat) : TrackList × Except ListError Unit :=
  indices.foldl
    (fun (state : TrackList × Except ListError Unit) index =>
      match state.2 with
      | .error failure => (state.1, .error failure)
      | .ok _ =>
        match state.1.removeAt index with
        | .ok (list, _) => (list, .ok ())
        | .error failure => (state.1, .error failure))
    (list, .ok ())

/-- Removes the selected tracks, or the track under the cursor, from the active list. -/
def removeSelected (browser : Browser) : Browser :=
  match browser.activeList? with
  | none => browser.report (.error .notFound)
  | some list =>
    if list.readOnly then browser.report (.error .readOnly)
    else
      let (walked, doomed) := collectSelected (list.size + 1) list.restartWalks
      let (list, outcome) := removeEach walked doomed.reverse
      (browser.setActiveList list).report
        (outcome.map fun _ => "removed " ++ decimal doomed.length)

/-- Saves the visible tracks of the active view as a new playlist. -/
def saveAsPlaylist (browser : Browser) : Browser :=
  match browser.activeList? with
  | none => browser.setStatus "nothing to save"
  | some source =>
    let copy := browser.defaults.newList.copyFrom source
    let title := "Playlist " ++ decimal browser.views.length
    (browser.addView (View.ofTracks .playlist title copy)).1.setStatus
      ("saved " ++ decimal copy.size ++ " records as " ++ title)

/-! ### Order and summary -/

/-- Sorts the active list. -/
def sortActive (browser : Browser) (keys : List String) : Browser :=
  browser.modifyActiveList fun list => list.sort keys

/-- Shuffles the active list. -/
def shuffleActive (browser : Browser) : Browser :=
  { browser.modifyActiveList fun list => list.shuffle browser.seed with
    seed := browser.seed.next }

/-- What the status line tells about a list. -/
def listSummary (list : TrackList) : String :=
  let shown := decimal list.size ++ " / " ++ decimal list.tracks.length ++ " (" ++
    totalText list.totalSeconds ++ ")"
  let selected :=
    if 0 < list.selectedCount then
      [decimal list.selectedCount ++ " selected (" ++ totalText list.selectedSeconds ++ ")"]
    else []
  let filtered :=
    if list.filters.isEmpty then [] else [decimal list.filters.length ++ " filters"]
  " | ".intercalate ([shown] ++ selected ++ filtered ++ [list.cursor.mode.name])

/-- What the status line tells about the active list. -/
def summary? (browser : Browser) : Option String :=
  browser.activeList?.map listSummary

end TrackBrowser.Browser
