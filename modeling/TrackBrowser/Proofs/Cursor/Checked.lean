/-
Module: TrackBrowser.Proofs.Cursor.Checked
Purpose: No number that a cursor computes leaves the 64 bits it is kept in.
-/
import TrackBrowser.Proofs.Cursor.Viewport

/-!
The operations of a cursor compute with natural numbers and integers, which have no limits.  The
checked operations of this module take the same steps with numbers of 64 bits and give up, with
`none`, at the first sum or product that does not fit, difference below zero, division by zero,
conversion that changes a number, or pair of limits in the wrong order.  Where a step stops at a
limit by intention, it does so here as well.

Nothing is ever refused as long as the lists have at most `maxRows` rows, also where an operation is
told of another list than the one before.  What carries this is `Bounded`: a cursor keeps no row
that no list of this length has, while heights and margins may be any counts.
-/

namespace TrackBrowser

/-! ### Exact arithmetic -/

namespace Exact

/-- The sum of two counts. -/
def sum? (a b : Nat) : Option Nat :=
  if a + b < countLimit then some (a + b) else none

/-- The product of two counts. -/
def product? (a b : Nat) : Option Nat :=
  if a * b < countLimit then some (a * b) else none

/-- The difference of two counts. -/
def difference? (a b : Nat) : Option Nat :=
  if b ≤ a then some (a - b) else none

/-- The quotient of two counts, rounded down. -/
def quotient? (a b : Nat) : Option Nat :=
  if b = 0 then none else some (a / b)

/-- A count as a signed number. -/
def signed? (a : Nat) : Option Int :=
  if (a : Int) ≤ largestSigned then some a else none

/-- A signed number as a count. -/
def count? (a : Int) : Option Nat :=
  if 0 ≤ a then some a.toNat else none

/-- The difference of two signed numbers. -/
def signedDifference? (a b : Int) : Option Int :=
  if smallestSigned ≤ a - b ∧ a - b ≤ largestSigned then some (a - b) else none

/-- The remainder that is left of a signed number, which is not negative.  The quotient has to fit
as well. -/
def remainder? (a b : Int) : Option Int :=
  if b = 0 ∨ (a = smallestSigned ∧ b = -1) then none else some (a % b)

/-- The number between two limits that is nearest to a given one. -/
def between? {α : Type} [LE α] [DecidableLE α] [Min α] [Max α] (low high value : α) : Option α :=
  if low ≤ high then some (max low (min high value)) else none

variable {a b : Nat} {x y : Int}

theorem sum?_eq (fits : a + b < countLimit) : sum? a b = some (a + b) := if_pos fits

theorem product?_eq (fits : a * b < countLimit) : product? a b = some (a * b) := if_pos fits

theorem difference?_eq (ordered : b ≤ a) : difference? a b = some (a - b) := if_pos ordered

theorem quotient?_eq (divides : b ≠ 0) : quotient? a b = some (a / b) := if_neg divides

theorem signed?_eq (fits : (a : Int) ≤ largestSigned) : signed? a = some (a : Int) := if_pos fits

theorem count?_eq (natural : 0 ≤ x) : count? x = some x.toNat := if_pos natural

theorem signedDifference?_eq (low : smallestSigned ≤ x - y) (high : x - y ≤ largestSigned) :
    signedDifference? x y = some (x - y) := if_pos ⟨low, high⟩

theorem remainder?_eq (positive : 0 < y) : remainder? x y = some (x % y) :=
  if_neg (by omega)

theorem between?_eq {α : Type} [LE α] [DecidableLE α] [Min α] [Max α] {low high : α}
    (ordered : low ≤ high) (value : α) :
    between? low high value = some (max low (min high value)) := if_pos ordered

end Exact

namespace Cursor

/-- The largest number of rows that a list is counted on to have. -/
def maxRows : Nat := 0x80000000

/-!
### Checked operations

Each has the name of the operation whose steps it takes.
-/

namespace Checked

open Exact

def margin (cursor : Cursor) : Option Nat :=
  if cursor.height = 0 then some 0
  else do
    let others ← difference? cursor.height 1
    let half ← quotient? others 2
    return min cursor.scrolloff half

def relativeRow (cursor : Cursor) (rows size : Nat) : Option Nat := do
  let span ← difference? size 1
  let product ← product? cursor.index rows
  let twice ← product? product 2
  let rounded ← sum? twice span
  let divisor ← product? 2 span
  quotient? rounded divisor

def shownOffset (cursor : Cursor) (size : Nat) : Option Nat :=
  match cursor.mode with
  | .normal => some (min cursor.offset (cursor.maxOffset size))
  | .centered => do
    let half ← quotient? (cursor.height - 1) 2
    return min (cursor.index - half) (cursor.maxOffset size)
  | .relative =>
    let rows := cursor.height - 2
    if size ≤ rows ∨ size ≤ 1 then some 0
    else do
      let row ← relativeRow cursor rows size
      return min (cursor.index - row) (cursor.maxOffset size)

def follow (cursor : Cursor) (size : Nat) : Option Cursor :=
  if cursor.mode ≠ .normal then some cursor
  else
    let highest := cursor.maxOffset size
    let offset := min cursor.offset highest
    if cursor.height = 0 then some { cursor with offset := offset }
    else do
      let margin ← margin cursor
      let top ← sum? offset margin
      if cursor.index < top then some { cursor with offset := cursor.index - margin }
      else do
        let lowest ← sum? cursor.index margin
        let bottom ← sum? offset cursor.height
        if bottom ≤ lowest then do
          let beyond ← sum? lowest 1
          let wanted ← difference? beyond cursor.height
          return { cursor with offset := min wanted highest }
        else some { cursor with offset := offset }

def clamp (cursor : Cursor) (size : Nat) : Option Cursor :=
  if size = 0 then some cursor.reset
  else do
    let last ← difference? size 1
    follow { cursor with index := min cursor.index last } size

def setMode (cursor : Cursor) (mode : ScrollMode) (size : Nat) : Option Cursor := do
  let offset ← shownOffset cursor size
  follow { cursor with offset := offset, mode := mode } size

def move (cursor : Cursor) (delta : Int) (size : Nat) : Option (Cursor × Bool) :=
  if size = 0 then some (cursor, false)
  else do
    let rows ← signed? size
    let last ← signedDifference? rows 1
    let final ← difference? size 1
    let start ← signed? (min cursor.index final)
    let target := addSaturating start delta
    let (reached, complied) ←
      if 0 ≤ target ∧ target ≤ last then some (target, true)
      else if cursor.wrap then (remainder? target rows).map (·, true)
      else (between? 0 last target).map (·, false)
    let index ← count? reached
    (follow { cursor with index := index } size).map (·, complied)

def put (cursor : Cursor) (index size : Nat) : Option (Cursor × Bool) :=
  if size = 0 then some (cursor, false)
  else do
    let last ← difference? size 1
    (follow { cursor with index := min index last } size).map (·, decide (index < size))

def lowestRow (cursor : Cursor) (offset size : Nat) : Option Nat := do
  let margin ← margin cursor
  let last ← difference? size 1
  if offset = 0 then some (min 0 last) else (sum? offset margin).map (min · last)

def highestRow (cursor : Cursor) (offset size : Nat) : Option Nat := do
  let margin ← margin cursor
  let last ← difference? size 1
  if offset = cursor.maxOffset size then some last
  else do
    let below ← sum? offset (max cursor.height 1)
    let bottom ← difference? below 1
    return min (bottom - margin) last

def dragged (cursor : Cursor) (offset size : Nat) : Option Cursor := do
  let low ← lowestRow cursor offset size
  let high ← highestRow cursor offset size
  let index ← between? low (max low high) cursor.index
  return { cursor with index := index, offset := offset }

def scroll (cursor : Cursor) (delta : Int) (size : Nat) : Option (Cursor × Bool) :=
  if size = 0 then some (cursor, false)
  else if cursor.mode ≠ .normal then move cursor delta size
  else do
    let highest := cursor.maxOffset size
    let start ← signed? (min cursor.offset highest)
    let target := addSaturating start delta
    let limit ← signed? highest
    let reached ← between? 0 limit target
    let offset ← count? reached
    let shown ← signed? offset
    (dragged cursor offset size).map (·, decide (shown = target))

def position (cursor : Cursor) (size : Nat) : Option (Option Nat) :=
  if 0 < size then do
    let last ← difference? size 1
    return some (min cursor.index last)
  else some none

end Checked

/-! ### Bounded cursors -/

/-- A cursor whose rows are rows of lists and whose other numbers are counts. -/
structure Bounded (cursor : Cursor) : Prop where
  index : cursor.index < maxRows
  offset : cursor.offset ≤ maxRows
  height : cursor.height < countLimit
  scrolloff : cursor.scrolloff < countLimit

variable {cursor : Cursor} {size : Nat}

namespace Checked

open Exact

theorem margin_eq (cursor : Cursor) : Checked.margin cursor = some cursor.margin := by
  unfold Checked.margin Cursor.margin
  split
  · rename_i flat
    simp [flat]
  · rw [difference?_eq (by omega)]
    rfl

/-- The early answer for short lists keeps the rows of the screen below those of the list, so the
product fits wherever the cursor has come from. -/
theorem relativeRow_eq (bounded : cursor.Bounded) {rows : Nat} (few : rows < size)
    (small : size ≤ maxRows) (long : 1 < size) :
    Checked.relativeRow cursor rows size = some (cursor.relativeRow rows size) := by
  have index := bounded.index
  have product : cursor.index * rows ≤ (maxRows - 1) * (maxRows - 1) :=
    Nat.mul_le_mul (by omega) (by omega)
  have fits : cursor.index * rows * 2 + (size - 1) < countLimit ∧
      2 * (size - 1) < countLimit := by
    simp only [maxRows, countLimit] at *
    omega
  simp only [Checked.relativeRow, Option.bind_eq_bind, Option.bind_some,
    difference?_eq (Nat.le_of_lt long),
    product?_eq (show cursor.index * rows < countLimit by omega),
    product?_eq (show cursor.index * rows * 2 < countLimit by omega), sum?_eq fits.1,
    product?_eq fits.2, quotient?_eq (show 2 * (size - 1) ≠ 0 by omega)]
  rfl

theorem shownOffset_eq (bounded : cursor.Bounded) (small : size ≤ maxRows) :
    Checked.shownOffset cursor size = some (cursor.shownOffset size) := by
  unfold Checked.shownOffset Cursor.shownOffset
  cases cursor.mode with
  | normal => rfl
  | centered => rfl
  | relative =>
    dsimp only
    split
    · rfl
    · rw [relativeRow_eq bounded (by omega) small (by omega)]
      rfl

/-- The margin leaves room for a row, so only a height that no list reaches makes these sums large,
and then the offset is zero. -/
theorem follow_eq (bounded : cursor.Bounded) (small : size ≤ maxRows) :
    Checked.follow cursor size = some (cursor.follow size) := by
  unfold Checked.follow Cursor.follow
  split
  · rfl
  · dsimp only
    split
    · rfl
    · rename_i tall
      have index := bounded.index
      have height := bounded.height
      have room := two_mul_margin_lt (Nat.pos_of_ne_zero tall)
      have shown : min cursor.offset (cursor.maxOffset size) + cursor.height ≤
          max size cursor.height := by
        unfold maxOffset
        omega
      have rows : maxRows < countLimit - maxRows := by decide
      have top := sum?_eq (a := min cursor.offset (cursor.maxOffset size)) (b := cursor.margin)
        (by omega)
      have lowest := sum?_eq (a := cursor.index) (b := cursor.margin) (by omega)
      have bottom := sum?_eq (a := min cursor.offset (cursor.maxOffset size)) (b := cursor.height)
        (by omega)
      simp only [margin_eq, top, lowest, bottom, Option.bind_eq_bind, Option.bind_some]
      split
      · rfl
      · split
        · rename_i below
          have beyond := sum?_eq (a := cursor.index + cursor.margin) (b := 1) (by omega)
          have wanted := difference?_eq (a := cursor.index + cursor.margin + 1)
            (b := cursor.height) (by omega)
          simp only [beyond, wanted, Option.bind_some]
          rfl
        · rfl

end Checked

namespace Bounded

/-- Following the cursor keeps its row, and moves the offset to a row that a list has. -/
theorem follow (bounded : cursor.Bounded) (small : size ≤ maxRows) :
    (cursor.follow size).Bounded := by
  have index := bounded.index
  have offset := bounded.offset
  rw [follow_eq]
  refine ⟨index, ?_, bounded.height, bounded.scrolloff⟩
  by_cases normal : cursor.mode = .normal
  · have last : cursor.maxOffset size ≤ size := Nat.sub_le _ _
    rw [follow_offset normal]
    split
    · omega
    · split
      · omega
      · split <;> omega
  · rw [Cursor.follow, if_pos normal]
    exact offset

theorem onRow (bounded : cursor.Bounded) {row : Nat} (inside : row < size)
    (small : size ≤ maxRows) : { cursor with index := row }.Bounded :=
  ⟨Nat.lt_of_lt_of_le inside small, bounded.offset, bounded.height, bounded.scrolloff⟩

theorem atOffset (bounded : cursor.Bounded) {offset : Nat} (reach : offset ≤ cursor.maxOffset size)
    (small : size ≤ maxRows) : { cursor with offset := offset }.Bounded := by
  have most : cursor.maxOffset size ≤ size := Nat.sub_le _ _
  exact ⟨bounded.index, Nat.le_trans (Nat.le_trans reach most) small, bounded.height,
    bounded.scrolloff⟩

theorem reset (bounded : cursor.Bounded) : cursor.reset.Bounded :=
  ⟨Nat.succ_pos _, Nat.zero_le _, bounded.height, bounded.scrolloff⟩

end Bounded

/-! ### Moves -/

open Exact

/-- Where a move ends that is told of some rows: on one of them, with the viewport following.  The
checked move is refused only where following is. -/
theorem move_eq_follow (cursor : Cursor) (delta : Int) (nonempty : size ≠ 0)
    (small : size ≤ maxRows) :
    ∃ row complied, row < size ∧
      cursor.move delta size = ({ cursor with index := row }.follow size, complied) ∧
      Checked.move cursor delta size =
        (Checked.follow { cursor with index := row } size).map (·, complied) := by
  have signed : (maxRows : Int) ≤ largestSigned := by decide
  have rows := signed?_eq (a := size) (by omega)
  have last := signedDifference?_eq (x := (size : Int)) (y := 1)
    (by unfold smallestSigned; omega) (by omega)
  have final := difference?_eq (a := size) (b := 1) (by omega)
  have start := signed?_eq (a := min cursor.index (size - 1)) (by omega)
  rw [Cursor.move, if_neg nonempty, Checked.move, if_neg nonempty]
  simp only [rows, last, final, start, Option.bind_eq_bind, Option.bind_some]
  generalize addSaturating (min cursor.index (size - 1) : Nat) delta = target
  split
  · rename_i inside
    refine ⟨target.toNat, true, by omega, rfl, ?_⟩
    simp only [Option.bind_some, count?_eq inside.1]
  · split
    · have natural := Int.emod_nonneg target (show (size : Int) ≠ 0 by omega)
      have below := Int.emod_lt_of_pos target (show 0 < (size : Int) by omega)
      refine ⟨(target % size).toNat, true, by omega, rfl, ?_⟩
      simp only [remainder?_eq (show 0 < (size : Int) by omega), Option.map_some, Option.bind_some,
        count?_eq natural]
    · have natural : 0 ≤ max 0 (min ((size : Int) - 1) target) := Int.le_max_left _ _
      refine ⟨(max 0 (min ((size : Int) - 1) target)).toNat, false, by omega, rfl, ?_⟩
      simp only [between?_eq (show (0 : Int) ≤ size - 1 by omega), Option.map_some,
        Option.bind_some, count?_eq natural]

/-- An offset without blank rows below the largest one has a whole screen of rows after it. -/
theorem Checked.dragged_eq (bounded : cursor.Bounded) (nonempty : size ≠ 0)
    (small : size ≤ maxRows) {offset : Nat} (reach : offset ≤ cursor.maxOffset size) :
    Checked.dragged cursor offset size = some (cursor.dragged offset size) := by
  have counted : maxRows < countLimit - maxRows := by decide
  have height := bounded.height
  have margins := @two_mul_margin_lt cursor
  have flat : cursor.height = 0 → cursor.margin = 0 := by
    intro flat
    simp [Cursor.margin, flat]
  have most : cursor.maxOffset size = size - cursor.height := rfl
  have last := difference?_eq (a := size) (b := 1) (by omega)
  have low : Checked.lowestRow cursor offset size = some (cursor.lowestRow offset size) := by
    simp only [Checked.lowestRow, Cursor.lowestRow, margin_eq, last, Option.bind_eq_bind,
      Option.bind_some]
    split
    · rfl
    · rw [sum?_eq (by omega), Option.map_some]
  have high : Checked.highestRow cursor offset size = some (cursor.highestRow offset size) := by
    simp only [Checked.highestRow, Cursor.highestRow, margin_eq, last, Option.bind_eq_bind,
      Option.bind_some]
    split
    · rfl
    · rw [sum?_eq (by omega), Option.bind_some, difference?_eq (by omega)]
      rfl
  simp only [Checked.dragged, low, high, between?_eq (Nat.le_max_left _ _), Option.bind_eq_bind,
    Option.bind_some]
  rfl

theorem Checked.scroll_eq (bounded : cursor.Bounded) (normal : cursor.mode = .normal)
    (nonempty : size ≠ 0) (small : size ≤ maxRows) (delta : Int) :
    Checked.scroll cursor delta size = some (cursor.scroll delta size) := by
  have signed : (maxRows : Int) ≤ largestSigned := by decide
  have most : cursor.maxOffset size ≤ size := Nat.sub_le _ _
  have start := signed?_eq (a := min cursor.offset (cursor.maxOffset size)) (by omega)
  have limit := signed?_eq (a := cursor.maxOffset size) (by omega)
  have reach := cursor.scrolledOffset_le delta size
  have offset : ((between? 0 (cursor.maxOffset size : Int)
      (addSaturating (min cursor.offset (cursor.maxOffset size) : Nat) delta)).bind count?) =
      some (cursor.scrolledOffset delta size) := by
    rw [between?_eq (Int.natCast_nonneg _), Option.bind_some, count?_eq (Int.le_max_left _ _)]
    rfl
  have shown := signed?_eq (a := cursor.scrolledOffset delta size) (by omega)
  have dragged := dragged_eq bounded nonempty small reach
  rw [scroll_eq_dragged nonempty normal, Checked.scroll, if_neg nonempty, if_neg (by simp [normal])]
  simp only [start, limit, Option.bind_eq_bind, Option.bind_some]
  rw [← Option.bind_assoc, offset, Option.bind_some, shown, Option.bind_some, dragged,
    Option.map_some]

/-! ### Calls -/

/-- The calls of a cursor with their arguments, which are numbers of 64 bits. -/
inductive Call where
  | setMode (mode : ScrollMode)
  | setScrolloff (scrolloff : UInt64)
  | setWrap (wrap : Bool)
  | setHeight (height : UInt64)
  | move (delta : Int64)
  | put (index : UInt64)
  | scroll (delta : Int64)
  | clamp
  | reset
  | shownOffset
  | position

/-- What a call answers: nothing, whether it was carried out in full, an offset or a row. -/
inductive Answer where
  | nothing
  | complied (complied : Bool)
  | offset (offset : Nat)
  | position (row : Option Nat)
  deriving DecidableEq, Repr, Inhabited

/-- The cursor after a call in a list of `size` rows, with the answer. -/
def call (cursor : Cursor) (size : Nat) : Call → Cursor × Answer
  | .setMode mode => (cursor.setMode mode size, .nothing)
  | .setScrolloff scrolloff => (cursor.setScrolloff scrolloff.toNat size, .nothing)
  | .setWrap wrap => (cursor.setWrap wrap, .nothing)
  | .setHeight height => (cursor.setHeight height.toNat size, .nothing)
  | .move delta => (cursor.move delta.toInt size).map id .complied
  | .put index => (cursor.put index.toNat size).map id .complied
  | .scroll delta => (cursor.scroll delta.toInt size).map id .complied
  | .clamp => (cursor.clamp size, .nothing)
  | .reset => (cursor.reset, .nothing)
  | .shownOffset => (cursor, .offset (cursor.shownOffset size))
  | .position => (cursor, .position (cursor.position? size))

/-- The same call, checked. -/
def Checked.call (cursor : Cursor) (size : Nat) : Call → Option (Cursor × Answer)
  | .setMode mode => (setMode cursor mode size).map (·, .nothing)
  | .setScrolloff scrolloff =>
    (follow { cursor with scrolloff := scrolloff.toNat } size).map (·, .nothing)
  | .setWrap wrap => some (cursor.setWrap wrap, .nothing)
  | .setHeight height => (follow { cursor with height := height.toNat } size).map (·, .nothing)
  | .move delta => (move cursor delta.toInt size).map (Prod.map id .complied)
  | .put index => (put cursor index.toNat size).map (Prod.map id .complied)
  | .scroll delta => (scroll cursor delta.toInt size).map (Prod.map id .complied)
  | .clamp => (clamp cursor size).map (·, .nothing)
  | .reset => some (cursor.reset, .nothing)
  | .shownOffset => (shownOffset cursor size).map (cursor, .offset ·)
  | .position => (position cursor size).map (cursor, .position ·)

/-- A checked result that is the plain one and is bounded. -/
structure Agrees {α : Type} (checked : Option (Cursor × α)) (plain : Cursor × α) : Prop where
  eq : checked = some plain
  bounded : plain.1.Bounded

theorem Agrees.follow (bounded : cursor.Bounded) (small : size ≤ maxRows) {α : Type} (answer : α) :
    Agrees ((Checked.follow cursor size).map (·, answer)) (cursor.follow size, answer) := by
  refine ⟨?_, bounded.follow small⟩
  rw [Checked.follow_eq bounded small, Option.map_some]

theorem Agrees.answer {checked : Option (Cursor × Bool)} {plain : Cursor × Bool}
    (agrees : Agrees checked plain) :
    Agrees (checked.map (Prod.map id Answer.complied)) (plain.map id Answer.complied) := by
  refine ⟨?_, agrees.bounded⟩
  rw [agrees.eq, Option.map_some]

theorem agrees_move (bounded : cursor.Bounded) (small : size ≤ maxRows) (delta : Int) :
    Agrees (Checked.move cursor delta size) (cursor.move delta size) := by
  by_cases empty : size = 0
  · rw [Checked.move, if_pos empty, Cursor.move, if_pos empty]
    exact ⟨rfl, bounded⟩
  · obtain ⟨row, complied, inside, plain, checked⟩ := move_eq_follow cursor delta empty small
    rw [checked, plain]
    exact .follow (bounded.onRow inside small) small complied

theorem agrees_put (bounded : cursor.Bounded) (small : size ≤ maxRows) (index : Nat) :
    Agrees (Checked.put cursor index size) (cursor.put index size) := by
  unfold Checked.put Cursor.put
  split
  · exact ⟨rfl, bounded⟩
  · rw [difference?_eq (by omega), Option.bind_eq_bind, Option.bind_some]
    exact .follow (bounded.onRow (by omega) small) small _

theorem agrees_scroll (bounded : cursor.Bounded) (small : size ≤ maxRows) (delta : Int) :
    Agrees (Checked.scroll cursor delta size) (cursor.scroll delta size) := by
  by_cases empty : size = 0
  · rw [Checked.scroll, if_pos empty, Cursor.scroll, if_pos empty]
    exact ⟨rfl, bounded⟩
  · by_cases normal : cursor.mode = .normal
    · refine ⟨Checked.scroll_eq bounded normal empty small delta, ?_⟩
      have reach := cursor.scrolledOffset_le delta size
      have inside := (settled_dragged reach).inside (Nat.pos_of_ne_zero empty)
      rw [scroll_normal empty normal]
      exact (bounded.atOffset reach small).onRow inside small
    · rw [Checked.scroll, if_neg empty, if_pos normal, Cursor.scroll, if_neg empty, if_pos normal]
      exact agrees_move bounded small delta

theorem agrees_clamp (bounded : cursor.Bounded) (small : size ≤ maxRows) :
    Agrees ((Checked.clamp cursor size).map (·, Answer.nothing)) (cursor.clamp size, .nothing) := by
  unfold Checked.clamp Cursor.clamp
  split
  · exact ⟨rfl, bounded.reset⟩
  · rw [difference?_eq (by omega), Option.bind_eq_bind, Option.bind_some]
    exact .follow (bounded.onRow (by omega) small) small _

/-- No call on a bounded cursor is refused, whatever list it is told of, and it leaves the cursor
bounded. -/
theorem agrees_call (bounded : cursor.Bounded) (small : size ≤ maxRows) (call : Call) :
    Agrees (Checked.call cursor size call) (cursor.call size call) := by
  cases call with
  | setMode mode =>
    have shown := bounded.atOffset (shownOffset_le cursor size) small
    have resumed : { cursor with offset := cursor.shownOffset size, mode := mode }.Bounded :=
      ⟨shown.index, shown.offset, shown.height, shown.scrolloff⟩
    simp only [Checked.call, Checked.setMode, Checked.shownOffset_eq bounded small,
      Option.bind_eq_bind, Option.bind_some]
    exact .follow resumed small _
  | setScrolloff scrolloff =>
    have changed : { cursor with scrolloff := scrolloff.toNat }.Bounded :=
      ⟨bounded.index, bounded.offset, bounded.height, scrolloff.toNat_lt⟩
    exact .follow changed small _
  | setWrap wrap =>
    exact ⟨rfl, ⟨bounded.index, bounded.offset, bounded.height, bounded.scrolloff⟩⟩
  | setHeight height =>
    have changed : { cursor with height := height.toNat }.Bounded :=
      ⟨bounded.index, bounded.offset, height.toNat_lt, bounded.scrolloff⟩
    exact .follow changed small _
  | move delta => exact (agrees_move bounded small delta.toInt).answer
  | put index => exact (agrees_put bounded small index.toNat).answer
  | scroll delta => exact (agrees_scroll bounded small delta.toInt).answer
  | clamp => exact agrees_clamp bounded small
  | reset => exact ⟨rfl, bounded.reset⟩
  | shownOffset =>
    refine ⟨?_, bounded⟩
    simp only [Checked.call, Checked.shownOffset_eq bounded small, Option.map_some]
    rfl
  | position =>
    refine ⟨?_, bounded⟩
    simp only [Checked.call, Cursor.call, Checked.position, position?]
    split
    · rw [difference?_eq (by omega)]
      rfl
    · rfl

/-! ### Runs -/

/-- A call with the number of rows that it is told of. -/
structure Step where
  call : Call
  size : Nat
  small : size ≤ maxRows

/-- The cursors and the answers after each step of a run. -/
def trace (cursor : Cursor) : List Step → List (Cursor × Answer)
  | [] => []
  | step :: rest =>
    let after := cursor.call step.size step.call
    after :: after.1.trace rest

/-- The same run, checked. -/
def Checked.trace (cursor : Cursor) : List Step → Option (List (Cursor × Answer))
  | [] => some []
  | step :: rest => do
    let after ← Checked.call cursor step.size step.call
    let later ← Checked.trace after.1 rest
    return after :: later

theorem Bounded.trace (bounded : cursor.Bounded) (steps : List Step) :
    Checked.trace cursor steps = some (cursor.trace steps) ∧
      ∀ after ∈ cursor.trace steps, after.1.Bounded := by
  induction steps generalizing cursor with
  | nil => exact ⟨rfl, nofun⟩
  | cons step rest ih =>
    have agrees := agrees_call bounded step.small step.call
    obtain ⟨later, all⟩ := ih agrees.bounded
    constructor
    · simp only [Checked.trace, agrees.eq, later, Option.bind_eq_bind, Option.bind_some]
      rfl
    · exact List.forall_mem_cons.mpr ⟨agrees.bounded, all⟩

/-- Cursor arithmetic never fails.  Whatever calls are made of a new cursor, with whatever arguments
of 64 bits, and whatever lists of at most `maxRows` rows they are told of: no sum or product leaves
the 64 bits of a count, no difference goes below zero, nothing is divided by zero, no conversion
changes a number, and no limits are in the wrong order.  The cursor and the answers are those of the
operations that know no limits, and the cursor never keeps a row that no such list has. -/
theorem checked_trace (steps : List Step) :
    Checked.trace {} steps = some (trace {} steps) ∧
      ∀ after ∈ trace {} steps, after.1.index < maxRows ∧ after.1.offset ≤ maxRows := by
  have start : Bounded {} := ⟨by decide, by decide, by decide, by decide⟩
  obtain ⟨exactly, all⟩ := start.trace steps
  exact ⟨exactly, fun after member => ⟨(all after member).index, (all after member).offset⟩⟩

end Cursor

end TrackBrowser
