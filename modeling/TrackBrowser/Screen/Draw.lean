/-
Module: TrackBrowser.Screen.Draw
Purpose: The screen of the program.
-/
import TrackBrowser.Browser.Commands
import TrackBrowser.Screen.Paragraph
import TrackBrowser.Screen.Rows

/-!
The screen has four boxes from top to bottom: a header, the rows of the active view, the status line
and hints on keys.  The height that is left for rows is handed to the view before its offset is
asked for, so the rows that are drawn are those of its viewport.
-/

namespace TrackBrowser.Screen

/-- The heights of the four boxes: three rows each, and all that is left for the rows of the view.
When there is too little, the lower boxes give way first. -/
def boxHeights (height : Nat) : List Nat :=
  let rows := max (min height 3) (height - 9)
  let header := min 3 (height - rows)
  let status := min 3 (height - rows - header)
  let hints := min 3 (height - rows - header - status)
  [header, rows, status, hints]

/-- The areas of the four boxes. -/
def boxAreas (width height : Nat) : Area × Area × Area × Area :=
  match boxHeights height with
  | [header, rows, status, hints] =>
    (⟨0, 0, width, header⟩, ⟨0, header, width, rows⟩, ⟨0, header + rows, width, status⟩,
      ⟨0, header + rows + status, width, hints⟩)
  | _ => (⟨0, 0, width, 0⟩, ⟨0, 0, width, 0⟩, ⟨0, 0, width, 0⟩, ⟨0, 0, width, 0⟩)

/-- The keys that the hints name. -/
def hints : List (String × String) :=
  [("j/k", "move"), ("/", "search"), ("f", "filter"), ("space", "select"), ("a", "add"),
   ("tab", "views"), ("q", "quit")]

/-- The text of the hints. -/
def hintsText : String :=
  " | ".intercalate (hints.map fun (key, action) => "[" ++ key ++ "] " ++ action)

/-- The status line: the input, the last message, and the summary of the list. -/
def statusText (browser : Browser) : String :=
  let input :=
    match browser.inputMode with
    | .search => ["/" ++ browser.input]
    | .filter => ["filter: " ++ browser.input]
    | .normal => []
  " • ".intercalate (input ++ browser.status.toList ++ browser.summary?.toList)

/-- The rows of a view that are inside its viewport, and which of them is highlighted. -/
def viewItems (view : View) (settings : ListSettings) (height : Nat) : List Item × Option Nat :=
  let offset := view.offset
  let last := min (offset + height) view.size
  let rows := (List.range' offset (last - offset)).filterMap fun index =>
    view.row? index settings.columns settings.columnSeparator
  (rows.map fun row => ⟨(if row.selected then "* " else "  ") ++ row.text, row.selected⟩,
    view.cursorIndex?.map (· - offset))

/-- Draws the screen.  The active view learns its height by it. -/
def draw (browser : Browser) (settings : Settings) (width height : Nat) : Canvas × Browser :=
  let (headerArea, rowsArea, statusArea, hintsArea) := boxAreas width height
  let rowsHeight := rowsArea.height - 2
  let browser := browser.modifyActive fun view => view.setHeight rowsHeight
  let view := browser.activeView
  let (items, highlight) := viewItems view settings.list rowsHeight
  let header := ((Canvas.blank width height).drawBox headerArea .center " tracklist ").drawParagraph
    (headerArea.inside 0) .center false settings.screen.headerText
  let rows := (header.drawBox rowsArea .left (" " ++ view.title ++ " ")).drawRows
    (rowsArea.inside 0) items highlight
  let status := (rows.drawBox statusArea .left " status ").drawParagraph
    (statusArea.inside 1) .left true (statusText browser)
  let canvas := (status.drawBox hintsArea .left " controls ").drawParagraph
    (hintsArea.inside 1) .left true hintsText
  (canvas, browser)

end TrackBrowser.Screen
