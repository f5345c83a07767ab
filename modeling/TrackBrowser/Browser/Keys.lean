/-
Module: TrackBrowser.Browser.Keys
Purpose: What each key does.
-/
import TrackBrowser.Browser.Commands
import TrackBrowser.Number.Limits

namespace TrackBrowser

/-- The keys of a keyboard, as far as they are told apart. -/
inductive KeyCode where
  | char (c : Char)
  | escape
  | enter
  | backspace
  | tab
  | backTab
  | up
  | down
  | pageUp
  | pageDown
  | other
  deriving DecidableEq, Repr, Inhabited

/-- A key press, with or without the control key. -/
structure Key where
  code : KeyCode
  control : Bool := false
  deriving DecidableEq, Repr, Inhabited

/-- The key of a name: a character, a character after `ctrl-`, or a word for the key. -/
def Key.ofName (name : List Char) : Key :=
  match name with
  | [c] => { code := .char c }
  | ['c', 't', 'r', 'l', '-', c] => { code := .char c, control := true }
  | _ =>
    match String.ofList name with
    | "esc" => { code := .escape }
    | "enter" => { code := .enter }
    | "backspace" => { code := .backspace }
    | "tab" => { code := .tab }
    | "backtab" => { code := .backTab }
    | "up" => { code := .up }
    | "down" => { code := .down }
    | "pgup" => { code := .pageUp }
    | "pgdn" => { code := .pageDown }
    | _ => { code := .other }

/-- The key bindings, as they are listed. -/
def keyBindings : List (String × String) :=
  [("j/k", "cursor down/up"), ("ctrl-d/u", "scroll half a page down/up"),
   ("ctrl-e/y", "scroll one row down/up"), ("pgdn/pgup", "scroll a page down/up"),
   ("gg/G", "top/bottom"), ("/", "search as you type"), ("n/N", "next/previous search hit"),
   ("f", "add a filter"), ("F", "remove the last filter"), ("esc", "remove every filter"),
   ("]/[", "next/previous artist"), ("\x7d/\x7b", "next/previous album"),
   ("space", "toggle selection"), ("v", "select records by the same artist"),
   ("V", "clear the selection"), ("a", "add selection to the playlist"),
   ("d", "remove selection"), ("o", "sort by the configured keys"), ("S", "shuffle"),
   ("m", "cycle scroll mode"), ("w", "save view as a new playlist"),
   ("tab/backtab", "next/previous view"), ("enter", "open view (window list)"), ("q", "quit")]

/-- The program between two key presses.  `pendingTop` tells that the first of two keys that go to
the top was pressed. -/
structure Session where
  browser : Browser
  pendingTop : Bool := false
  deriving DecidableEq, Repr, Inhabited

/-- Whether a character is a control character. -/
def isControl (c : Char) : Bool :=
  c.toNat < 0x20 || (0x7f ≤ c.toNat && c.toNat ≤ 0x9f)

/-- A number of rows as a signed number of 64 bits. -/
def signedRows (rows : Nat) : Int :=
  Int.bmod rows countLimit

namespace Browser

/-- Scrolls the active view, and says so when it does not go further. -/
def scrollActive (browser : Browser) (delta : Int) : Browser :=
  match browser.onActive fun view => view.scroll delta with
  | (browser, true) => browser
  | (browser, false) => browser.setStatus "cannot scroll further"

/-- Moves the cursor of the active view. -/
def moveActive (browser : Browser) (delta : Int) : Browser :=
  browser.modifyActive fun view => (view.moveCursor delta).1

/-- Puts the cursor of the active view on a row. -/
def putActive (browser : Browser) (index : Nat) : Browser :=
  browser.modifyActive fun view => (view.putCursor index).1

/-- A key pressed while the input line is open. -/
def pressInput (browser : Browser) (key : Key) : Browser :=
  match key.code with
  | .escape => browser.cancelInput
  | .enter => browser.commitInput
  | .backspace => browser.popInput
  | .char c => if isControl c || key.control then browser else browser.pushInput c
  | _ => browser

/-- Opens the view on which the cursor of a list of windows stands. -/
def openWindow (browser : Browser) : Browser :=
  if browser.activeView.kind = .windows then
    match browser.activeView.cursorIndex? with
    | some index => (browser.activate index).1
    | none => browser
  else browser

/-- What a character key does, except for the two that end the program and go to the top. -/
def pressChar (settings : Settings) (browser : Browser) (c : Char) (control : Bool) : Browser :=
  let page := signedRows (max browser.activeView.height 1)
  let half := max (page.tdiv 2) 1
  match c with
  | 'd' => if control then browser.scrollActive half else browser.removeSelected
  | 'u' => if control then browser.scrollActive (-half) else browser
  | 'e' => if control then browser.scrollActive 1 else browser
  | 'y' => if control then browser.scrollActive (-1) else browser
  | 'j' => browser.moveActive 1
  | 'k' => browser.moveActive (-1)
  | 'G' => browser.putActive (browser.activeView.size - 1)
  | '/' => browser.beginSearch
  | 'n' => browser.repeatSearch false
  | 'N' => browser.repeatSearch true
  | 'f' => browser.beginFilter
  | 'F' => browser.popFilter
  | ']' => browser.jumpGroup .artist true
  | '[' => browser.jumpGroup .artist false
  | '}' => browser.jumpGroup .album true
  | '{' => browser.jumpGroup .album false
  | ' ' => browser.toggleSelect
  | 'v' => browser.selectSame .artist
  | 'V' => browser.deselectAll
  | 'a' => browser.addToPlaylist
  | 'o' => browser.sortActive settings.list.sort
  | 'S' => browser.shuffleActive
  | 'm' => browser.cycleScrollMode
  | 'w' => browser.saveAsPlaylist
  | _ => browser

/-- What a key does while the input line is closed, except for the two that end the program and go
to the top. -/
def pressNormal (settings : Settings) (browser : Browser) (key : Key) : Browser :=
  let page := signedRows (max browser.activeView.height 1)
  match key.code with
  | .char c => browser.pressChar settings c key.control
  | .pageDown => browser.scrollActive page
  | .pageUp => browser.scrollActive (-page)
  | .down => browser.moveActive 1
  | .up => browser.moveActive (-1)
  | .escape => browser.clearFilters
  | .tab => browser.nextView
  | .backTab => browser.previousView
  | .enter => browser.openWindow
  | .backspace => browser
  | .other => browser

end Browser

namespace Session

/-- Handles a key press; `true` when it ends the program. -/
def press (settings : Settings) (session : Session) (key : Key) : Session × Bool :=
  let browser := session.browser
  if browser.inputMode ≠ .normal then (⟨browser.pressInput key, false⟩, false)
  else
    let browser := browser.clearStatus
    match key.code with
    | .char 'g' =>
      if session.pendingTop then (⟨browser.putActive 0, false⟩, false)
      else (⟨browser, true⟩, false)
    | .char 'q' => (⟨browser, false⟩, true)
    | _ => (⟨browser.pressNormal settings key, false⟩, false)

/-- Handles the characters of a text as key presses until one ends the program. -/
def pressAll (settings : Settings) : Session → List Key → Session × Bool
  | session, [] => (session, false)
  | session, key :: keys =>
    match session.press settings key with
    | (session, true) => (session, true)
    | (session, false) => pressAll settings session keys

end Session

end TrackBrowser
