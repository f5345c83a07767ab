/-
Module: TrackBrowser.Cursor
Purpose: A cursor in a list of rows and the viewport that follows it.
-/
import TrackBrowser.Number.Limits

/-!
The cursor does not own the rows it walks over: every operation is told how many there are.  How
the viewport follows depends on the scroll mode.  In normal mode the offset is kept, and moved only
as far as the margin around the cursor demands; in the other modes it is computed from the cursor.
Operations that return a truth value say whether the request was carried out in full.

Moves are signed numbers of 64 bits, and adding one to a row saturates at their limits.
-/

namespace TrackBrowser

/-- How the viewport follows the cursor: it keeps a margin, it keeps the cursor in its middle row,
or it places the cursor in proportion to its place in the list. -/
inductive ScrollMode where
  | normal
  | centered
  | relative
  deriving DecidableEq, Repr, Inhabited

namespace ScrollMode

/-- The name of a mode. -/
def name : ScrollMode → String
  | .normal => "normal"
  | .centered => "centered"
  | .relative => "relative"

/-- The mode that comes next when modes are cycled through. -/
def next : ScrollMode → ScrollMode
  | .normal => .centered
  | .centered => .relative
  | .relative => .normal

end ScrollMode

/-- The number between two limits that is nearest to a given one. -/
def clampInt (low high value : Int) : Int :=
  max low (min high value)

/-- Addition that stops at the limits of signed numbers of 64 bits. -/
def addSaturating (a b : Int) : Int :=
  clampInt smallestSigned largestSigned (a + b)

/-- A cursor with its viewport. -/
structure Cursor where
  index : Nat := 0
  offset : Nat := 0
  height : Nat := 0
  scrolloff : Nat := 0
  mode : ScrollMode := .normal
  wrap : Bool := false
  deriving DecidableEq, Repr, Inhabited

namespace Cursor

/-- The row of the cursor; there is none in an empty list. -/
def position? (cursor : Cursor) (size : Nat) : Option Nat :=
  if 0 < size then some (min cursor.index (size - 1)) else none

/-- The rows kept between the cursor and the edges of the viewport: at most as many as leave a row
for the cursor between them. -/
def margin (cursor : Cursor) : Nat :=
  min cursor.scrolloff ((cursor.height - 1) / 2)

/-- The largest offset that leaves no blank row at the bottom. -/
def maxOffset (cursor : Cursor) (size : Nat) : Nat :=
  size - cursor.height

/-- The screen row on which relative mode puts the cursor: its share of the rows, rounded to the
nearest. -/
def relativeRow (cursor : Cursor) (rows size : Nat) : Nat :=
  (cursor.index * rows * 2 + (size - 1)) / (2 * (size - 1))

/-- The first row that the viewport shows. -/
def shownOffset (cursor : Cursor) (size : Nat) : Nat :=
  match cursor.mode with
  | .normal => min cursor.offset (cursor.maxOffset size)
  | .centered => min (cursor.index - (cursor.height - 1) / 2) (cursor.maxOffset size)
  | .relative =>
    let rows := cursor.height - 2
    if size ≤ rows ∨ size ≤ 1 then 0
    else min (cursor.index - cursor.relativeRow rows size) (cursor.maxOffset size)

/-- Restores the margin after the cursor or the list has changed.  Only normal mode keeps an offset
of its own. -/
def follow (cursor : Cursor) (size : Nat) : Cursor :=
  if cursor.mode ≠ .normal then cursor
  else
    let highest := cursor.maxOffset size
    let offset := min cursor.offset highest
    let margin := cursor.margin
    let offset :=
      if cursor.height = 0 then offset
      else if cursor.index < offset + margin then cursor.index - margin
      else if offset + cursor.height ≤ cursor.index + margin then
        min (cursor.index + margin + 1 - cursor.height) highest
      else offset
    { cursor with offset := offset }

/-- Back to the top. -/
def reset (cursor : Cursor) : Cursor :=
  { cursor with index := 0, offset := 0 }

/-- Brings cursor and viewport back into a list whose size has changed. -/
def clamp (cursor : Cursor) (size : Nat) : Cursor :=
  if size = 0 then cursor.reset
  else { cursor with index := min cursor.index (size - 1) }.follow size

/-- Turns wrapping around the ends on or off. -/
def setWrap (cursor : Cursor) (wrap : Bool) : Cursor :=
  { cursor with wrap := wrap }

/-- Changes the wanted margin. -/
def setScrolloff (cursor : Cursor) (scrolloff size : Nat) : Cursor :=
  { cursor with scrolloff := scrolloff }.follow size

/-- Changes the scroll mode.  Normal mode goes on from the offset that was shown before. -/
def setMode (cursor : Cursor) (mode : ScrollMode) (size : Nat) : Cursor :=
  { cursor with offset := cursor.shownOffset size, mode := mode }.follow size

/-- Changes the number of rows that the viewport shows. -/
def setHeight (cursor : Cursor) (height size : Nat) : Cursor :=
  { cursor with height := height }.follow size

/-- Moves the cursor.  Past an end it wraps around if wrapping is on, and stops at the end
otherwise. -/
def move (cursor : Cursor) (delta : Int) (size : Nat) : Cursor × Bool :=
  if size = 0 then (cursor, false)
  else
    let last : Int := size - 1
    let target := addSaturating (min cursor.index (size - 1) : Nat) delta
    let (index, complied) :=
      if 0 ≤ target ∧ target ≤ last then (target, true)
      else if cursor.wrap then (target % size, true)
      else (clampInt 0 last target, false)
    ({ cursor with index := index.toNat }.follow size, complied)

/-- Puts the cursor on a row, or on the last row if there is no such row. -/
def put (cursor : Cursor) (index size : Nat) : Cursor × Bool :=
  if size = 0 then (cursor, false)
  else ({ cursor with index := min index (size - 1) }.follow size, index < size)

/-- Scrolls the viewport.  In normal mode the cursor is dragged along only as far as the margin
demands; the other modes have no offset of their own, so the cursor moves instead. -/
def scroll (cursor : Cursor) (delta : Int) (size : Nat) : Cursor × Bool :=
  if size = 0 then (cursor, false)
  else if cursor.mode ≠ .normal then cursor.move delta size
  else
    let highest := cursor.maxOffset size
    let target := addSaturating (min cursor.offset highest : Nat) delta
    let offset := (clampInt 0 highest target).toNat
    let margin := cursor.margin
    let last := size - 1
    let low := min (if offset = 0 then 0 else offset + margin) last
    let high :=
      if offset = highest then last
      else min (offset + max cursor.height 1 - 1 - margin) last
    let index := max low (min (max low high) cursor.index)
    ({ cursor with index := index, offset := offset }, (offset : Int) = target)

end Cursor

end TrackBrowser
