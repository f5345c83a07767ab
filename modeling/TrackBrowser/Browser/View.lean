/-
Module: TrackBrowser.Browser.View
Purpose: Views: titled lists of tracks or of plain rows.
-/
import TrackBrowser.Settings.Basic
import TrackBrowser.TrackList.Basic

/-!
Every view has rows, a cursor and a viewport.  Track views have those of their list; the list of
windows and the list of key bindings are plain rows with a cursor of their own.
-/

namespace TrackBrowser

/-- The role that a view plays. -/
inductive ViewKind where
  | playlist
  | library
  | windows
  | bindings
  deriving DecidableEq, Repr, Inhabited

/-- The name of a role. -/
def ViewKind.name : ViewKind → String
  | .playlist => "playlist"
  | .library => "library"
  | .windows => "windows"
  | .bindings => "bindings"

/-- What a view shows. -/
inductive ViewContent where
  | tracks (list : TrackList)
  | rows (rows : List String) (cursor : Cursor)
  deriving DecidableEq, Repr, Inhabited

/-- A view. -/
structure View where
  kind : ViewKind
  title : String
  content : ViewContent
  deriving DecidableEq, Repr, Inhabited

/-- One line of a view. -/
structure Row where
  text : String
  selected : Bool
  deriving DecidableEq, Repr, Inhabited

namespace View

/-- A view of a list of tracks. -/
def ofTracks (kind : ViewKind) (title : String) (list : TrackList) : View :=
  ⟨kind, title, .tracks list⟩

/-- A view of plain rows. -/
def ofRows (kind : ViewKind) (title : String) (rows : List String) : View :=
  ⟨kind, title, .rows rows {}⟩

/-- The list of a track view. -/
def list? (view : View) : Option TrackList :=
  match view.content with
  | .tracks list => some list
  | .rows _ _ => none

/-- Changes the list of a track view. -/
def modifyList (view : View) (change : TrackList → TrackList) : View :=
  match view.content with
  | .tracks list => { view with content := .tracks (change list) }
  | .rows _ _ => view

/-- Replaces the rows of a row view. -/
def setRows (view : View) (rows : List String) : View :=
  match view.content with
  | .tracks _ => view
  | .rows _ cursor => { view with content := .rows rows (cursor.clamp rows.length) }

/-- The number of rows. -/
def size (view : View) : Nat :=
  match view.content with
  | .tracks list => list.size
  | .rows rows _ => rows.length

/-- A row; that of a track shows the given columns. -/
def row? (view : View) (index : Nat) (columns : List Field) (separator : String) : Option Row :=
  match view.content with
  | .tracks list =>
    (list.get? index).map fun track => ⟨track.row columns separator, track.selected⟩
  | .rows rows _ => rows[index]?.map fun text => ⟨text, false⟩

/-- The cursor of a view. -/
def cursor (view : View) : Cursor :=
  match view.content with
  | .tracks list => list.cursor
  | .rows _ cursor => cursor

/-- The row of the cursor. -/
def cursorIndex? (view : View) : Option Nat :=
  view.cursor.position? view.size

/-- The first row in the viewport. -/
def offset (view : View) : Nat :=
  view.cursor.shownOffset view.size

/-- The height of the viewport. -/
def height (view : View) : Nat :=
  view.cursor.height

/-- The scroll mode. -/
def scrollMode (view : View) : ScrollMode :=
  view.cursor.mode

/-- Changes the height of the viewport. -/
def setHeight (view : View) (height : Nat) : View :=
  match view.content with
  | .tracks list => { view with content := .tracks (list.setHeight height) }
  | .rows rows cursor => { view with content := .rows rows (cursor.setHeight height rows.length) }

/-- Changes the scroll mode. -/
def setScrollMode (view : View) (mode : ScrollMode) : View :=
  match view.content with
  | .tracks list => { view with content := .tracks (list.setScrollMode mode) }
  | .rows rows cursor => { view with content := .rows rows (cursor.setMode mode rows.length) }

/-- Changes the margin around the cursor. -/
def setScrolloff (view : View) (scrolloff : Nat) : View :=
  match view.content with
  | .tracks list => { view with content := .tracks (list.setScrolloff scrolloff) }
  | .rows rows cursor =>
    { view with content := .rows rows (cursor.setScrolloff scrolloff rows.length) }

/-- Turns wrapping around the ends on or off. -/
def setWrap (view : View) (wrap : Bool) : View :=
  match view.content with
  | .tracks list => { view with content := .tracks (list.setWrap wrap) }
  | .rows rows cursor => { view with content := .rows rows (cursor.setWrap wrap) }

/-- Moves the cursor by some rows. -/
def moveCursor (view : View) (delta : Int) : View × Bool :=
  match view.content with
  | .tracks list =>
    let (list, complied) := list.moveCursor delta
    ({ view with content := .tracks list }, complied)
  | .rows rows cursor =>
    let (cursor, complied) := cursor.move delta rows.length
    ({ view with content := .rows rows cursor }, complied)

/-- Puts the cursor on a row. -/
def putCursor (view : View) (index : Nat) : View × Bool :=
  match view.content with
  | .tracks list =>
    let (list, complied) := list.putCursor index
    ({ view with content := .tracks list }, complied)
  | .rows rows cursor =>
    let (cursor, complied) := cursor.put index rows.length
    ({ view with content := .rows rows cursor }, complied)

/-- Scrolls the viewport by some rows. -/
def scroll (view : View) (delta : Int) : View × Bool :=
  match view.content with
  | .tracks list =>
    let (list, complied) := list.scroll delta
    ({ view with content := .tracks list }, complied)
  | .rows rows cursor =>
    let (cursor, complied) := cursor.scroll delta rows.length
    ({ view with content := .rows rows cursor }, complied)

end View

/-- How every list of the program behaves. -/
structure ListDefaults where
  scrollMode : ScrollMode := .normal
  scrolloff : Nat := 0
  wrap : Bool := false
  regex : Bool := false
  caseSensitive : Bool := false
  deriving DecidableEq, Repr, Inhabited

namespace ListDefaults

/-- The defaults that the settings ask for. -/
def ofSettings (settings : ListSettings) : ListDefaults :=
  { scrollMode := settings.scrollMode
    scrolloff := settings.scrolloff
    wrap := settings.wrap
    regex := settings.regexSearch
    caseSensitive := settings.caseSensitiveSort }

/-- An empty list that matches and sorts as wanted. -/
def newList (defaults : ListDefaults) : TrackList :=
  { regex := defaults.regex, caseSensitive := defaults.caseSensitive }

/-- Makes a view scroll as wanted. -/
def apply (defaults : ListDefaults) (view : View) : View :=
  ((view.setScrollMode defaults.scrollMode).setScrolloff defaults.scrolloff).setWrap defaults.wrap

end ListDefaults

end TrackBrowser
