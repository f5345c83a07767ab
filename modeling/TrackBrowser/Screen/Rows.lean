/-
Module: TrackBrowser.Screen.Rows
Purpose: Lists of rows of which one is highlighted.
-/
import TrackBrowser.Screen.Canvas

/-!
A row whose text has several lines takes several rows of the screen.  When not all rows fit, those
are shown that include the highlighted one.
-/

namespace TrackBrowser.Screen

/-- A row to draw. -/
structure Item where
  text : String
  bold : Bool
  deriving DecidableEq, Repr, Inhabited

/-- The number of screen rows that an item takes. -/
def Item.height (item : Item) : Nat :=
  (linesOf item.text).length

/-- How many items from the front fit into a height. -/
def fittingCount : (height : Nat) → List Item → Nat
  | _, [] => 0
  | height, item :: rest =>
    if height < item.height then 0 else fittingCount (height - item.height) rest + 1

/-- Moves the first shown item down until the items up to `last` fit into a height. -/
def firstFitting (items : List Item) (height last : Nat) : (fuel : Nat) → (first : Nat) → Nat
  | 0, first => first
  | fuel + 1, first =>
    let shown := (items.take last).drop first
    if height < (shown.map Item.height).foldl (· + ·) 0 then
      firstFitting items height last fuel (first + 1)
    else first

/-- The first item to show and the one after the last, so that the highlighted item is shown. -/
def shownRange (items : List Item) (highlight : Option Nat) (height : Nat) : Nat × Nat :=
  let fitting := fittingCount height items
  let wanted := highlight.getD 0
  if wanted < fitting then (0, fitting)
  else (firstFitting items height (wanted + 1) (wanted + 1) 0, wanted + 1)

namespace Canvas

/-- The mark in front of the highlighted row; the other rows are indented by its width. -/
def highlightMark : String := "> "

/-- Draws items below each other.  Each comes with whether it is highlighted. -/
def drawItems (canvas : Canvas) (area : Area) (indent : Nat) : (row : Nat) → List (Item × Bool) →
    Canvas
  | _, [] => canvas
  | row, (item, highlighted) :: rest =>
    let itemArea : Area := ⟨area.left, row, area.width, item.height⟩
    let styled :=
      if item.bold then canvas.modifyArea itemArea fun cell => { cell with bold := true }
      else canvas
    let mark := if highlighted then highlightMark else "  "
    let lines := linesOf item.text
    let drawn := lines.zipIdx.foldl
      (fun (canvas : Canvas) entry =>
        canvas.drawLine (area.left + indent) (area.width - indent) (row + entry.2) entry.1)
      styled
    let reversed :=
      if highlighted then drawn.modifyArea itemArea fun cell => { cell with reversed := true }
      else drawn
    let marked :=
      if indent = 0 then reversed
      else lines.zipIdx.foldl
        (fun (canvas : Canvas) entry =>
          canvas.drawLine area.left (min indent area.width) (row + entry.2)
            (if entry.2 = 0 then mark else "  ").toList)
        reversed
    marked.drawItems area indent (row + item.height) rest

/-- Draws rows of which one may be highlighted. -/
def drawRows (canvas : Canvas) (area : Area) (items : List Item) (highlight : Option Nat) :
    Canvas :=
  if area.isEmpty || items.isEmpty then canvas
  else
    let highlight := highlight.map fun index => min index (items.length - 1)
    let (first, last) := shownRange items highlight area.height
    let shown := ((items.take last).drop first).zipIdx first
    let indent := if highlight.isSome then highlightMark.length else 0
    canvas.drawItems area indent area.top
      (shown.map fun entry => (entry.1, highlight == some entry.2))

end Canvas

end TrackBrowser.Screen
