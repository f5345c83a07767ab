/-
Module: TrackBrowser.Screen.Paragraph
Purpose: Bordered boxes and the paragraphs inside them.
-/
import TrackBrowser.Screen.Canvas

/-!
A paragraph either cuts its lines off where the area ends or breaks them between words.  When lines
are broken, blanks around a break are dropped, and a word that is wider than the area is broken
where it has to be.
-/

namespace TrackBrowser.Screen

/-- Where a title or a line stands in its area. -/
inductive Alignment where
  | left
  | center
  deriving DecidableEq, Repr, Inhabited

/-! ### Breaking lines -/

/-- The state of breaking a line.  `line` is what has been placed on the line being filled; `blanks`
and `word` follow it and are placed when the word has ended.  `inWord` tells whether the last glyph
was not blank. -/
structure Breaking where
  finished : List (List Glyph) := []
  line : List Glyph := []
  lineWidth : Nat := 0
  blanks : List Glyph := []
  word : List Glyph := []
  inWord : Bool := false
  deriving DecidableEq, Repr, Inhabited

namespace Breaking

/-- Places the word on the line, with the blanks before it unless they start the line. -/
def placeWord (state : Breaking) : Breaking :=
  let kept := if state.line.isEmpty then [] else state.blanks
  { state with
    line := state.line ++ kept ++ state.word
    lineWidth := state.lineWidth + Glyph.totalWidth kept + Glyph.totalWidth state.word
    blanks := []
    word := [] }

/-- Drops blanks from the front as long as they fit into a width. -/
def dropBlanks : (width : Nat) → List Glyph → List Glyph
  | _, [] => []
  | width, blank :: rest =>
    if width < blank.width then blank :: rest else dropBlanks (width - blank.width) rest

/-- Ends the line, and drops the blanks that would have fitted on it. -/
def finishLine (limit : Nat) (state : Breaking) : Breaking :=
  { state with
    finished := state.finished ++ [state.line]
    line := []
    lineWidth := 0
    blanks := dropBlanks (limit - state.lineWidth) state.blanks }

/-- Adds a glyph to the blanks or to the word. -/
def add (state : Breaking) (glyph : Glyph) : Breaking :=
  if glyph.isBlank then { state with blanks := state.blanks ++ [glyph], inWord := false }
  else { state with word := state.word ++ [glyph], inWord := true }

/-- Takes in the next glyph.  A glyph wider than a line is left out. -/
def take (limit : Nat) (state : Breaking) (glyph : Glyph) : Breaking :=
  if limit < glyph.width then state
  else
    let wordEnds := state.inWord && glyph.isBlank
    let overflows := state.line.isEmpty &&
      (limit < Glyph.totalWidth state.word + glyph.width ||
        limit < Glyph.totalWidth state.blanks + glyph.width)
    let state := if wordEnds || overflows then state.placeWord else state
    let isFull := limit ≤ state.lineWidth ||
      (0 < glyph.width &&
        limit ≤ state.lineWidth + Glyph.totalWidth state.blanks + Glyph.totalWidth state.word)
    if isFull then
      let state := state.finishLine limit
      if glyph.isBlank && state.blanks.isEmpty then state else state.add glyph
    else state.add glyph

/-- The lines when there is no more to come. -/
def finish (state : Breaking) : List (List Glyph) :=
  let onlyBlanks := state.line.isEmpty && state.word.isEmpty && !state.blanks.isEmpty
  let finished := if onlyBlanks then state.finished ++ [[]] else state.finished
  let last := state.line ++ (if state.line.isEmpty then [] else state.blanks) ++ state.word
  let lines := if last.isEmpty then finished else finished ++ [last]
  if lines.isEmpty then [[]] else lines

end Breaking

/-- Breaks a line into lines of a limited width. -/
def breakLine (limit : Nat) (line : List Glyph) : List (List Glyph) :=
  (line.foldl (Breaking.take limit) {}).finish

/-- Cuts a line off where a width ends; glyphs wider than that are left out. -/
def cutLine (limit : Nat) : (used : Nat) → List Glyph → List Glyph
  | _, [] => []
  | used, glyph :: rest =>
    if limit < glyph.width then cutLine limit used rest
    else if limit < used + glyph.width then []
    else glyph :: cutLine limit (used + glyph.width) rest

/-! ### Drawing -/

namespace Canvas

/-- Draws the glyphs of a paragraph's line from a column on; those without width are left out. -/
def drawParagraphLine (canvas : Canvas) (row : Nat) : (column : Nat) → List Glyph → Canvas
  | _, [] => canvas
  | column, glyph :: rest =>
    if glyph.width = 0 then canvas.drawParagraphLine row column rest
    else (canvas.put column row glyph.symbol).drawParagraphLine row (column + glyph.width) rest

/-- Draws a paragraph, as many of its lines as there are rows. -/
def drawParagraph (canvas : Canvas) (area : Area) (alignment : Alignment) (wrapped : Bool)
    (text : String) : Canvas :=
  if area.isEmpty then canvas
  else
    let glyphs := (linesOf text).map Glyph.ofText
    let lines :=
      if wrapped then glyphs.flatMap (breakLine area.width)
      else glyphs.map (cutLine area.width 0)
    let indent (line : List Glyph) : Nat :=
      match alignment with
      | .left => 0
      | .center => area.width / 2 - Glyph.totalWidth line / 2
    ((lines.take area.height).zipIdx area.top).foldl
      (fun canvas entry => canvas.drawParagraphLine entry.2 (area.left + indent entry.1) entry.1)
      canvas

/-- Draws a border with a title in its top row. -/
def drawBox (canvas : Canvas) (area : Area) (alignment : Alignment) (title : String) : Canvas :=
  if area.isEmpty then canvas
  else
    let lastColumn := area.right - 1
    let lastRow := area.bottom - 1
    let horizontal := (List.range' area.left area.width).foldl
      (fun (canvas : Canvas) column =>
        (canvas.put column area.top "─").put column lastRow "─") canvas
    let vertical := (List.range' area.top area.height).foldl
      (fun (canvas : Canvas) row => (canvas.put area.left row "│").put lastColumn row "│")
      horizontal
    let bordered := (((vertical.put lastColumn lastRow "┘").put lastColumn area.top "┐").put
      area.left lastRow "└").put area.left area.top "┌"
    let width := area.width - 2
    let text := ((linesOf title).flatten)
    let needed := Glyph.totalWidth (Glyph.ofText text)
    let indent :=
      match alignment with
      | .left => 0
      | .center => (width - needed) / 2
    bordered.drawLine (area.left + 1 + indent) (width - indent) area.top text

end Canvas

end TrackBrowser.Screen
