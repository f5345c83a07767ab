/-
Module: TrackBrowser.Proofs.Cursor.DerivedOffset
Purpose: Where the offset is computed from the cursor, it follows the cursor row by row.
-/
import Mathlib.Algebra.Order.Round
import Mathlib.Data.Rat.Floor
import Mathlib.Tactic.FieldSimp
import TrackBrowser.Proofs.Cursor.Viewport

/-!
Centered and relative mode keep no offset: they want the cursor on a certain row of the screen, the
middle one or the one for its share of the list, and show the offset that puts it there, as far as
no blank row comes of it.  `wantedRow` is that row.  It is always a row of the screen, and it goes
down by at most one when the cursor does.  From these two facts the offset runs from the top of the
list to its end without ever going back or skipping a row.
-/

namespace TrackBrowser.Cursor

/-- The cursor with its index somewhere else. -/
def onRow (cursor : Cursor) (index : Nat) : Cursor :=
  { cursor with index := index }

/-- The row of the screen on which a mode without an offset of its own wants the cursor.  A list
that relative mode need not scroll stays at its top. -/
def wantedRow (cursor : Cursor) (size : Nat) : Nat :=
  if cursor.mode = .relative then
    if size ≤ cursor.height - 2 ∨ size ≤ 1 then cursor.index
    else cursor.relativeRow (cursor.height - 2) size
  else (cursor.height - 1) / 2

variable {cursor : Cursor} {size index : Nat}

/-! ### The share of a row -/

/-- The relative row is the share that the rows before the cursor have in the list, measured in rows
of the screen and rounded to the nearest integer. -/
theorem relativeRow_eq_round (cursor : Cursor) (rows size : Nat) :
    (cursor.relativeRow rows size : Int) =
      round ((cursor.index * rows : Rat) / (size - 1 : Nat)) := by
  rw [round_eq, relativeRow]
  generalize size - 1 = span
  rcases Nat.eq_zero_or_pos span with rfl | positive
  · norm_num
  · have doubled : (cursor.index * rows : Rat) / span + 1 / 2 =
        (cursor.index * rows * 2 + span : Nat) / (2 * span : Nat) := by
      have divisor : (span : Rat) ≠ 0 := Nat.cast_ne_zero.mpr (Nat.ne_of_gt positive)
      push_cast
      field_simp
    rw [doubled, Rat.floor_natCast_div_natCast]
    rfl

/-- Going down by one row in the list goes down by at most one row of the screen. -/
theorem relativeRow_succ {rows : Nat} (long : rows < size) :
    (cursor.onRow index).relativeRow rows size ≤ (cursor.onRow (index + 1)).relativeRow rows size ∧
      (cursor.onRow (index + 1)).relativeRow rows size ≤
        (cursor.onRow index).relativeRow rows size + 1 := by
  have next : (index + 1) * rows * 2 = index * rows * 2 + 2 * rows := by ring
  simp only [relativeRow, onRow, next]
  constructor
  · exact Nat.div_le_div_right (by omega)
  · rcases Nat.eq_zero_or_pos (size - 1) with short | positive
    · simp [short]
    · rw [← Nat.add_div_right _ (by omega)]
      exact Nat.div_le_div_right (by omega)

/-- The share of a row of a list that the screen has more rows for is no smaller than the row. -/
theorem le_relativeRow {rows : Nat} (short : size ≤ rows) (long : 1 < size) :
    cursor.index ≤ cursor.relativeRow rows size := by
  have share : cursor.index * (size - 1) ≤ cursor.index * rows :=
    Nat.mul_le_mul_left _ (by omega)
  rw [relativeRow, Nat.le_div_iff_mul_le (by omega)]
  calc cursor.index * (2 * (size - 1))
      = cursor.index * (size - 1) * 2 := by ring
    _ ≤ cursor.index * rows * 2 + (size - 1) := by omega

/-! ### The wanted row -/

theorem shownOffset_eq_wantedRow (derived : cursor.mode ≠ .normal) (size : Nat) :
    cursor.shownOffset size =
      min (cursor.index - cursor.wantedRow size) (cursor.maxOffset size) := by
  cases mode : cursor.mode with
  | normal => exact absurd mode derived
  | centered => simp only [shownOffset, wantedRow, mode, reduceCtorEq, if_false]
  | relative =>
    simp only [shownOffset, wantedRow, mode, if_true]
    split
    · rw [Nat.sub_self, Nat.zero_min]
    · rfl

/-- The wanted row is on the screen. -/
theorem wantedRow_lt (inside : cursor.index < size) (tall : 0 < cursor.height) :
    cursor.wantedRow size < cursor.height := by
  unfold wantedRow
  split
  · split
    · omega
    · have row : cursor.relativeRow (cursor.height - 2) size ≤ cursor.height - 2 :=
        relativeRow_le inside (by omega)
      have share : cursor.height - 2 < cursor.height := by omega
      exact Nat.lt_of_le_of_lt row share
  · omega

/-- The wanted row goes down by at most one when the cursor does. -/
theorem wantedRow_succ (cursor : Cursor) (size index : Nat) :
    (cursor.onRow index).wantedRow size ≤ (cursor.onRow (index + 1)).wantedRow size ∧
      (cursor.onRow (index + 1)).wantedRow size ≤ (cursor.onRow index).wantedRow size + 1 := by
  unfold wantedRow
  have mode : ∀ index, (cursor.onRow index).mode = cursor.mode := fun _ => rfl
  have height : ∀ index, (cursor.onRow index).height = cursor.height := fun _ => rfl
  simp only [mode, height]
  split
  · split
    · exact ⟨Nat.le_succ _, Nat.le_refl _⟩
    · exact relativeRow_succ (by omega)
  · exact ⟨Nat.le_refl _, Nat.le_succ _⟩

/-! ### The offset over the whole list -/

/-- The offset goes down by at most one row when the cursor does, and never up. -/
theorem shownOffset_succ (derived : cursor.mode ≠ .normal) (size index : Nat) :
    (cursor.onRow index).shownOffset size ≤ (cursor.onRow (index + 1)).shownOffset size ∧
      (cursor.onRow (index + 1)).shownOffset size ≤ (cursor.onRow index).shownOffset size + 1 := by
  have modes : ∀ index, (cursor.onRow index).mode ≠ .normal := fun _ => derived
  obtain ⟨down, steady⟩ := cursor.wantedRow_succ size index
  rw [shownOffset_eq_wantedRow (modes _), shownOffset_eq_wantedRow (modes _)]
  simp only [onRow, maxOffset] at down steady ⊢
  omega

/-- The offset goes down by no more rows than the cursor does, and never up. -/
theorem shownOffset_mono (derived : cursor.mode ≠ .normal) (size : Nat) {low high : Nat}
    (below : low ≤ high) :
    (cursor.onRow low).shownOffset size ≤ (cursor.onRow high).shownOffset size ∧
      (cursor.onRow high).shownOffset size ≤
        (cursor.onRow low).shownOffset size + (high - low) := by
  induction high, below using Nat.le_induction with
  | base => exact ⟨Nat.le_refl _, Nat.le_add_right _ _⟩
  | succ high below ih =>
    have step := shownOffset_succ derived size high
    omega

/-- With the cursor on the first row of the list, the top is shown. -/
theorem shownOffset_first (derived : cursor.mode ≠ .normal) (size : Nat) :
    (cursor.onRow 0).shownOffset size = 0 := by
  have modes : (cursor.onRow 0).mode ≠ .normal := derived
  rw [shownOffset_eq_wantedRow modes]
  simp only [onRow, Nat.zero_sub, Nat.zero_min]

/-- With the cursor on the last row of the list, the end of the list is shown. -/
theorem shownOffset_last (derived : cursor.mode ≠ .normal) (nonempty : 0 < size)
    (tall : 0 < cursor.height) :
    (cursor.onRow (size - 1)).shownOffset size = cursor.maxOffset size := by
  have final : (cursor.onRow (size - 1)).index < size := Nat.sub_one_lt_of_lt nonempty
  have row : (cursor.onRow (size - 1)).wantedRow size < cursor.height := wantedRow_lt final tall
  have modes : (cursor.onRow (size - 1)).mode ≠ .normal := derived
  rw [shownOffset_eq_wantedRow modes]
  simp only [onRow, maxOffset] at row ⊢
  omega

/-- Relative mode wants the cursor on the row of its share, or where it is in a list that is not
scrolled, which is no farther down. -/
theorem wantedRow_relative (relative : cursor.mode = .relative) (inside : cursor.index < size) :
    cursor.wantedRow size = cursor.relativeRow (cursor.height - 2) size ∨
      cursor.wantedRow size = cursor.index ∧
        cursor.index ≤ cursor.relativeRow (cursor.height - 2) size := by
  rw [wantedRow, if_pos relative]
  split
  · rename_i unscrolled
    right
    refine ⟨rfl, ?_⟩
    rcases Nat.lt_or_ge 1 size with long | single
    · exact le_relativeRow (by omega) long
    · omega
  · exact .inl rfl

/-- Relative mode shows the cursor no farther down than on the row of its share, unless the end of
the list is shown and having it on that row would leave blank rows. -/
theorem screenRow_relative (relative : cursor.mode = .relative) (inside : cursor.index < size) :
    cursor.index - cursor.shownOffset size ≤ cursor.relativeRow (cursor.height - 2) size ∨
      cursor.shownOffset size = cursor.maxOffset size ∧
        cursor.maxOffset size + cursor.relativeRow (cursor.height - 2) size < cursor.index := by
  have derived : cursor.mode ≠ .normal := by simp [relative]
  have wanted := wantedRow_relative relative inside
  rw [shownOffset_eq_wantedRow derived]
  omega

/-- Modes without an offset of their own go through the list evenly.  From the first row to the last
one the offset runs from the top to the largest one without blank rows, never goes back, and goes on
by at most one row when the cursor does.  The cursor is always on the screen.  Relative mode shows
it no farther down than on the row of its share, rounded to the nearest, unless the end of the list
is shown and having it on that row would leave blank rows. -/
theorem derivedOffset_traverses (cursor : Cursor) (size : Nat) :
    cursor.mode ≠ .normal → 0 < size → 0 < cursor.height →
      let shown := fun index => (cursor.onRow index).shownOffset size
      shown 0 = 0 ∧ shown (size - 1) = size - cursor.height ∧
        (∀ index, shown (index + 1) ≤ shown index + 1) ∧
        (∀ low high, low ≤ high → shown low ≤ shown high) ∧
        (∀ index, index < size → shown index ≤ index ∧ index - shown index < cursor.height) ∧
        (cursor.mode = .relative → ∀ index, index < size →
          let share : Int := round ((index * (cursor.height - 2 : Nat) : Rat) / (size - 1 : Nat))
          (index - shown index : Nat) ≤ share ∨
            shown index = size - cursor.height ∧
              (size - cursor.height : Nat) + share < index) := by
  intro derived nonempty tall shown
  refine ⟨shownOffset_first derived size, shownOffset_last derived nonempty tall, ?_, ?_, ?_, ?_⟩
  · exact fun index => (shownOffset_succ derived size index).2
  · exact fun low high below => (shownOffset_mono derived size below).1
  · intro index inside
    have settled : (cursor.onRow index).Settled size :=
      ⟨fun _ => inside, (absurd · derived), (absurd · derived), (absurd · derived)⟩
    obtain ⟨above, below⟩ := settled.shown_window nonempty tall
    exact ⟨above, Nat.sub_lt_left_of_lt_add above below⟩
  · intro relative index inside
    have mode : (cursor.onRow index).mode = .relative := relative
    have row := screenRow_relative mode inside
    have share := relativeRow_eq_round (cursor.onRow index) (cursor.height - 2) size
    dsimp only [onRow] at row share ⊢
    rw [← share]
    rcases row with low | ⟨last, blank⟩
    · exact .inl (Int.ofNat_le.mpr low)
    · exact .inr ⟨last, by exact_mod_cast blank⟩

/-- A hundred and one rows on a screen of twelve, in proportion.  Half-way through the list the
cursor is on the row of its share; on the last row of the list it is one farther down, since the end
of the list is shown there. -/
theorem derivedOffset_traverses_twelveRows :
    let cursor : Cursor := { height := 12, mode := .relative }
    cursor.mode ≠ .normal ∧ 0 < 101 ∧ 0 < cursor.height ∧ cursor.mode = .relative ∧
      (cursor.onRow 50).shownOffset 101 = 50 - 5 ∧
      (cursor.onRow 100).shownOffset 101 = 101 - 12 ∧
      ((101 - 12 : Nat) : Int) + round ((100 * (12 - 2 : Nat) : Rat) / (101 - 1 : Nat)) < 100 := by
  intro cursor
  have derived : cursor.mode ≠ .normal := nofun
  obtain ⟨_, last, _, _, _, row⟩ :=
    derivedOffset_traverses cursor 101 derived (by decide) (by decide)
  refine ⟨derived, by decide, by decide, rfl, by decide, last, ?_⟩
  rcases row rfl 100 (by decide) with low | ⟨_, blank⟩
  · have share : round ((100 * (12 - 2 : Nat) : Rat) / (101 - 1 : Nat)) = 10 := by norm_num
    have bottom : ((100 - (cursor.onRow 100).shownOffset 101 : Nat) : Int) = 11 := by decide
    rw [bottom] at low
    exact absurd (low.trans_eq share) (by decide)
  · exact blank

end TrackBrowser.Cursor
