/-
Module: TrackBrowser.Browser.Basic
Purpose: The state of the program: its views, its input line and its status line.
-/
import TrackBrowser.Browser.View
import TrackBrowser.TrackList.Shuffling

namespace TrackBrowser

/-- What typed characters feed: commands, a search as it is typed, or a new filter. -/
inductive InputMode where
  | normal
  | search
  | filter
  deriving DecidableEq, Repr, Inhabited

/-- The state of the program.  `searchOrigin` is where the cursor was when a search began. -/
structure Browser where
  views : List View
  active : Nat := 0
  status : Option String := none
  inputMode : InputMode := .normal
  input : String := ""
  searchOrigin : Option Nat := none
  lastSearch : Option String := none
  defaults : ListDefaults := {}
  redraw : Bool := true
  seed : Seed := ⟨0⟩
  deriving DecidableEq, Repr, Inhabited

namespace Browser

/-- The active view. -/
def activeView (browser : Browser) : View :=
  browser.views[browser.active]?.getD default

/-- The list of the active view, if it shows tracks. -/
def activeList? (browser : Browser) : Option TrackList :=
  browser.activeView.list?

/-- Changes the active view. -/
def modifyActive (browser : Browser) (change : View → View) : Browser :=
  { browser with views := browser.views.modify browser.active change }

/-- Replaces the list of the active view. -/
def setActiveList (browser : Browser) (list : TrackList) : Browser :=
  browser.modifyActive fun view => view.modifyList fun _ => list

/-- Changes the list of the active view, if it shows tracks. -/
def modifyActiveList (browser : Browser) (change : TrackList → TrackList) : Browser :=
  browser.modifyActive fun view => view.modifyList change

/-- Applies an operation of the active view that reports whether it was carried out in full. -/
def onActive (browser : Browser) (operation : View → View × Bool) : Browser × Bool :=
  (browser.modifyActive fun view => (operation view).1, (operation browser.activeView).2)

/-- Asks for a redraw. -/
def markRedraw (browser : Browser) : Browser :=
  { browser with redraw := true }

/-- Whether the screen may have changed since it was drawn last. -/
def wantsRedraw (browser : Browser) : Bool :=
  browser.redraw || browser.activeList?.any (·.redraw)

/-- Forgets that redraws were asked for, in every list as well. -/
def clearRedraw (browser : Browser) : Browser :=
  { browser with
    redraw := false
    views := browser.views.map fun view => view.modifyList TrackList.clearRedraw }

/-- Shows a message in the status line. -/
def setStatus (browser : Browser) (message : String) : Browser :=
  { browser with status := some message, redraw := true }

/-- Empties the status line. -/
def clearStatus (browser : Browser) : Browser :=
  if browser.status.isSome then { browser with status := none, redraw := true } else browser

/-- The rows of the list of windows: the title and the role of each view. -/
def windowRows (browser : Browser) : List String :=
  browser.views.map fun view => view.title ++ " (" ++ view.kind.name ++ ")"

/-- Brings the lists of windows up to date. -/
def refreshWindows (browser : Browser) : Browser :=
  { browser with
    views := browser.views.map fun view =>
      if view.kind = .windows then view.setRows browser.windowRows else view
    redraw := true }

/-- The program over some views; a list of windows is added if there is none. -/
def ofViews (views : List View) : Browser :=
  let views :=
    if views.any fun view => view.kind == .windows then views
    else views ++ [View.ofRows .windows "Windows" []]
  { views := views : Browser }.refreshWindows

/-- Switches to a view, and out of any input; `false` when there is no such view. -/
def activate (browser : Browser) (index : Nat) : Browser × Bool :=
  if browser.views.length ≤ index then (browser, false)
  else if browser.active = index then (browser, true)
  else
    ({ browser with active := index, inputMode := .normal, input := "", redraw := true }, true)

/-- Switches to the next view, around the end. -/
def nextView (browser : Browser) : Browser :=
  (browser.activate ((browser.active + 1) % browser.views.length)).1

/-- Switches to the previous view, around the end. -/
def previousView (browser : Browser) : Browser :=
  (browser.activate ((browser.active + browser.views.length - 1) % browser.views.length)).1

/-- Changes how lists behave, and makes every view scroll that way. -/
def setDefaults (browser : Browser) (defaults : ListDefaults) : Browser :=
  { browser with
    defaults := defaults
    views := browser.views.map defaults.apply
    redraw := true }

/-- The first view with a given role. -/
def findView? (browser : Browser) (kind : ViewKind) : Option Nat :=
  browser.views.findIdx? fun view => view.kind == kind

/-- Adds a view in front of the list of windows and returns its index.  The active view stays
active. -/
def addView (browser : Browser) (view : View) : Browser × Nat :=
  let index := (browser.findView? .windows).getD browser.views.length
  let extended :=
    { browser with
      views := browser.views.insertIdx index (browser.defaults.apply view)
      active := if index ≤ browser.active then browser.active + 1 else browser.active }
  (extended.refreshWindows, index)

end Browser

end TrackBrowser
