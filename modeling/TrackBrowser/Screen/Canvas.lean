/-
Module: TrackBrowser.Screen.Canvas
Purpose: A grid of cells and the texts drawn on it.
-/
import TrackBrowser.Text.Blank
import TrackBrowser.Unicode.CellWidth

namespace TrackBrowser.Screen

/-- One cell of a terminal. -/
structure Cell where
  symbol : String := " "
  bold : Bool := false
  reversed : Bool := false
  deriving DecidableEq, Repr, Inhabited

/-- A rectangle of cells. -/
structure Area where
  left : Nat
  top : Nat
  width : Nat
  height : Nat
  deriving DecidableEq, Repr, Inhabited

namespace Area

/-- The column after the last one. -/
def right (area : Area) : Nat :=
  area.left + area.width

/-- The row after the last one. -/
def bottom (area : Area) : Nat :=
  area.top + area.height

/-- Whether an area holds no cell. -/
def isEmpty (area : Area) : Bool :=
  area.width == 0 || area.height == 0

/-- The area inside a border, after some blank columns on its left. -/
def inside (area : Area) (padding : Nat) : Area :=
  { left := area.left + 1 + padding
    top := area.top + 1
    width := area.width - 2 - padding
    height := area.height - 2 }

end Area

/-- A grid of cells, row by row. -/
structure Canvas where
  width : Nat
  height : Nat
  rows : Array (Array Cell)
  deriving DecidableEq, Repr, Inhabited

namespace Canvas

/-- A canvas of blank cells. -/
def blank (width height : Nat) : Canvas :=
  ⟨width, height, Array.replicate height (Array.replicate width {})⟩

/-- The whole canvas as an area. -/
def area (canvas : Canvas) : Area :=
  ⟨0, 0, canvas.width, canvas.height⟩

/-- Changes one cell; cells outside the canvas do not exist. -/
def modify (canvas : Canvas) (column row : Nat) (change : Cell → Cell) : Canvas :=
  { canvas with rows := canvas.rows.modify row fun cells => cells.modify column change }

/-- Writes a symbol into a cell and leaves its looks. -/
def put (canvas : Canvas) (column row : Nat) (symbol : String) : Canvas :=
  canvas.modify column row fun cell => { cell with symbol := symbol }

/-- Changes every cell of an area. -/
def modifyArea (canvas : Canvas) (area : Area) (change : Cell → Cell) : Canvas :=
  (List.range' area.top area.height).foldl
    (fun canvas row =>
      (List.range' area.left area.width).foldl
        (fun canvas column => canvas.modify column row change) canvas)
    canvas

/-- The text of each row. -/
def lines (canvas : Canvas) : List String :=
  canvas.rows.toList.map fun cells => String.join (cells.toList.map Cell.symbol)

/-- The rows in which some cell looks a certain way. -/
def rowsWith (canvas : Canvas) (looks : Cell → Bool) : List Nat :=
  (List.range canvas.height).filter fun row => (canvas.rows[row]?.getD #[]).any looks

end Canvas

/-- A cluster of a text with its width in cells. -/
structure Glyph where
  symbol : String
  width : Nat
  deriving DecidableEq, Repr, Inhabited

namespace Glyph

/-- The glyphs of a line; clusters with control characters are left out. -/
def ofText (text : List Char) : List Glyph :=
  ((Unicode.clusters text).filter fun cluster =>
    !cluster.any fun c => Unicode.category c == .control).map
      fun cluster => ⟨String.ofList cluster, Unicode.clusterWidth cluster⟩

/-- Whether a glyph is blank, so that a line can be broken at it.  The space that does not break is
not, the break without width is. -/
def isBlank (glyph : Glyph) : Bool :=
  glyph.symbol == "\u200b" || (glyph.symbol.all Text.isBlank && glyph.symbol != "\u00a0")

/-- The width of a line. -/
def totalWidth (glyphs : List Glyph) : Nat :=
  (glyphs.map Glyph.width).foldl (· + ·) 0

end Glyph

/-- Cuts the rest of a text into lines; `line` is the line being read, its last character first.  A
line feed, with or without a carriage return before it, ends a line, and nothing follows the last
one. -/
def cutLines : (line : List Char) → List Char → List (List Char)
  | [], [] => []
  | line, [] => [line.reverse]
  | line, c :: rest =>
    if c == '\n' then
      let ended := if line.head? == some '\r' then line.tail else line
      ended.reverse :: cutLines [] rest
    else cutLines (c :: line) rest

/-- The lines of a text; a text without lines is one empty line. -/
def linesOf (text : String) : List (List Char) :=
  let lines := cutLines [] text.toList
  if lines.isEmpty then [[]] else lines

namespace Canvas

/-- Draws glyphs in a row from `column` on, as long as they fit before `limit`.  A glyph without
width is added to the cell before it; the cells behind a wide glyph are cleared. -/
def drawGlyphs (canvas : Canvas) (start limit row : Nat) :
    (isFirst : Bool) → (column : Nat) → List Glyph → Canvas
  | _, _, [] => canvas
  | isFirst, column, glyph :: rest =>
    let next := column + glyph.width
    if limit < next then canvas
    else
      let append (column : Nat) : Canvas :=
        canvas.modify column row fun cell => { cell with symbol := cell.symbol ++ glyph.symbol }
      let drawn :=
        if isFirst then canvas.put column row glyph.symbol
        else if column = start then append column
        else if glyph.width = 0 then append (column - 1)
        else canvas.put column row glyph.symbol
      let cleared := (List.range' (column + 1) (glyph.width - 1)).foldl
        (fun canvas hidden => canvas.modify hidden row fun _ => {}) drawn
      cleared.drawGlyphs start limit row false next rest

/-- Draws a line of text from the left of an area. -/
def drawLine (canvas : Canvas) (left width row : Nat) (text : List Char) : Canvas :=
  canvas.drawGlyphs left (left + width) row true left (Glyph.ofText text)

end Canvas

end TrackBrowser.Screen
