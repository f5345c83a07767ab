/-
Module: TrackBrowser.Proofs.Cursor.LeastMovement
Purpose: In normal mode neither the viewport nor the cursor moves farther than the margin demands.
-/
import Mathlib.Data.Nat.Dist
import TrackBrowser.Proofs.Cursor.Viewport

/-!
A viewport at an offset `Fits` a row when it shows no blank row and keeps the margin, which an end
of the list frees.  For a fixed row the offsets that fit are an interval, and for a fixed offset the
rows are one too.  Whatever moves the cursor puts the offset on the nearest point of the first
interval, and scrolling puts the cursor on the nearest point of the second.  So what is inside
already stays where it is, and the two adjustments agree: each leaves a fixed point of the other.
-/

namespace TrackBrowser

/-! ### Nearest numbers -/

/-- The allowed number that is nearest to a wanted one: every other allowed one is farther away. -/
structure Nearest (allowed : Nat → Prop) (wanted found : Nat) : Prop where
  holds : allowed found
  closer : ∀ other, allowed other → other ≠ found → Nat.dist found wanted < Nat.dist other wanted

namespace Nearest

variable {allowed : Nat → Prop} {wanted found : Nat}

/-- A wanted number that is allowed is the nearest one. -/
theorem eq_of_allowed (nearest : Nearest allowed wanted found) (here : allowed wanted) :
    found = wanted := by
  by_contra other
  have closer := nearest.closer wanted here (Ne.symm other)
  rw [Nat.dist_self] at closer
  exact Nat.not_lt_zero _ closer

/-- In an interval the nearest number is the wanted one, or the limit that it lies beyond. -/
theorem of_interval {low high : Nat} (ordered : low ≤ high)
    (interval : ∀ number, allowed number ↔ low ≤ number ∧ number ≤ high) (wanted : Nat) :
    Nearest allowed wanted (max low (min high wanted)) where
  holds := (interval _).mpr (by omega)
  closer := by
    intro other inside differs
    obtain ⟨above, below⟩ := (interval other).mp inside
    unfold Nat.dist
    omega

end Nearest

namespace Cursor

variable {cursor : Cursor} {size offset row : Nat}

/-! ### Rows and offsets that fit -/

/-- A viewport at an offset may have the cursor on a row: it leaves no blank row at the bottom, and
keeps the margin to each edge that is not an end of the list. -/
structure Fits (cursor : Cursor) (size offset row : Nat) : Prop where
  reach : offset ≤ cursor.maxOffset size
  top : offset = 0 ∨ offset + cursor.margin ≤ row
  bottom : offset = cursor.maxOffset size ∨ row + cursor.margin < offset + cursor.height

/-- The first offset that fits a row: from there on the margin below the row is shown, or the end of
the list is. -/
def lowestOffset (cursor : Cursor) (row size : Nat) : Nat :=
  min (row + cursor.margin + 1 - cursor.height) (cursor.maxOffset size)

/-- The last offset that fits a row: up to there the margin above the row is shown. -/
def highestOffset (cursor : Cursor) (row size : Nat) : Nat :=
  min (row - cursor.margin) (cursor.maxOffset size)

theorem lowestOffset_le_highestOffset (tall : 0 < cursor.height) (row size : Nat) :
    cursor.lowestOffset row size ≤ cursor.highestOffset row size := by
  have room := two_mul_margin_lt tall
  unfold lowestOffset highestOffset
  omega

/-- The offsets that fit a row are an interval. -/
theorem fits_iff_offset (tall : 0 < cursor.height) :
    cursor.Fits size offset row ↔
      cursor.lowestOffset row size ≤ offset ∧ offset ≤ cursor.highestOffset row size := by
  have room := two_mul_margin_lt tall
  unfold lowestOffset highestOffset
  constructor
  · rintro ⟨_, top, bottom⟩
    omega
  · intro inside
    constructor <;> omega

/-- Following the cursor changes neither height nor margin, so the same offsets fit the same
rows. -/
theorem fits_follow : (cursor.follow size).Fits size offset row ↔ cursor.Fits size offset row := by
  rw [follow_eq]
  exact ⟨fun fits => ⟨fits.reach, fits.top, fits.bottom⟩,
    fun fits => ⟨fits.reach, fits.top, fits.bottom⟩⟩

theorem lowestRow_le_highestRow (tall : 0 < cursor.height) (offset size : Nat) :
    cursor.lowestRow offset size ≤ cursor.highestRow offset size := by
  have room := two_mul_margin_lt tall
  unfold lowestRow highestRow
  split <;> split <;> omega

/-- The rows that a viewport fits are an interval. -/
theorem fits_iff_row (nonempty : 0 < size) (tall : 0 < cursor.height)
    (reach : offset ≤ cursor.maxOffset size) :
    row < size ∧ cursor.Fits size offset row ↔
      cursor.lowestRow offset size ≤ row ∧ row ≤ cursor.highestRow offset size := by
  have room := two_mul_margin_lt tall
  have last : cursor.maxOffset size = size - cursor.height := rfl
  unfold lowestRow highestRow
  constructor
  · rintro ⟨inside, _, top, bottom⟩
    split <;> split <;> omega
  · intro inside
    split at inside <;> split at inside <;>
      exact ⟨by omega, reach, by omega, by omega⟩

/-! ### Following the cursor -/

/-- Following moves the offset into the interval of those that fit the row of the cursor. -/
theorem follow_offset_eq (normal : cursor.mode = .normal) (tall : 0 < cursor.height) :
    (cursor.follow size).offset =
      max (cursor.lowestOffset cursor.index size)
        (min (cursor.highestOffset cursor.index size)
          (min cursor.offset (cursor.maxOffset size))) := by
  have room := two_mul_margin_lt tall
  rw [follow_offset normal, if_neg (Nat.ne_of_gt tall)]
  unfold lowestOffset highestOffset
  split
  · omega
  · split <;> omega

theorem follow_nearest (normal : cursor.mode = .normal) (tall : 0 < cursor.height) :
    Nearest (fun offset => cursor.Fits size offset cursor.index)
      (min cursor.offset (cursor.maxOffset size)) (cursor.follow size).offset := by
  rw [follow_offset_eq normal tall]
  exact .of_interval (lowestOffset_le_highestOffset tall _ _) (fun _ => fits_iff_offset tall) _

/-- A settled cursor needs no adjustment: bringing it back into the list, or giving the viewport the
height or the margin that it has, changes nothing. -/
theorem Settled.unmoved (settled : cursor.Settled size) (nonempty : 0 < size) :
    cursor.follow size = cursor ∧ cursor.clamp size = cursor ∧
      cursor.setHeight cursor.height size = cursor ∧
      cursor.setScrolloff cursor.scrolloff size = cursor := by
  have inside := settled.inside nonempty
  have kept := settled.follow_eq_self
  refine ⟨kept, ?_, kept, kept⟩
  rw [clamp, if_neg (Nat.ne_of_gt nonempty), Nat.min_eq_left (Nat.le_sub_one_of_lt inside)]
  exact kept

/-! ### What moves the viewport -/

/-- What is done to a cursor, or to the list around it, that makes the viewport follow.  To `resume`
is to change to normal mode. -/
inductive Adjustment where
  | move (delta : Int)
  | put (index : Nat)
  | setHeight (height : Nat)
  | setScrolloff (scrolloff : Nat)
  | clamp
  | resume
  deriving DecidableEq, Repr, Inhabited

/-- The cursor after an adjustment in a list of `size` rows. -/
def adjust (cursor : Cursor) (size : Nat) : Adjustment → Cursor
  | .move delta => (cursor.move delta size).1
  | .put index => (cursor.put index size).1
  | .setHeight height => cursor.setHeight height size
  | .setScrolloff scrolloff => cursor.setScrolloff scrolloff size
  | .clamp => cursor.clamp size
  | .resume => cursor.setMode .normal size

/-- The offset of the viewport before an adjustment: what the mode before was showing when normal
mode is resumed, and else the offset that normal mode has kept. -/
def offsetBefore (cursor : Cursor) (size : Nat) : Adjustment → Nat
  | .resume => cursor.shownOffset size
  | _ => cursor.offset

/-- The offset kept in normal mode is the one that was shown for a list of any number of rows in
which it left no blank row.  Where it left some, what was shown is still the same up to every limit
that is no larger than the one of that list. -/
theorem min_shownOffset (normal : cursor.mode = .normal) {before limit : Nat}
    (shown : cursor.offset ≤ cursor.maxOffset before ∨ limit ≤ cursor.maxOffset before) :
    min (cursor.shownOffset before) limit = min cursor.offset limit := by
  simp only [shownOffset, normal]
  omega

/-- Every adjustment changes the cursor, but not the offset that it starts from, and then makes the
viewport follow. -/
theorem adjust_eq_follow (nonempty : 0 < size) (cursor : Cursor) (adjustment : Adjustment) :
    ∃ prepared : Cursor, cursor.adjust size adjustment = prepared.follow size ∧
      prepared.offset = cursor.offsetBefore size adjustment ∧
      (adjustment ≠ .resume → prepared.mode = cursor.mode) := by
  have some_row : size ≠ 0 := Nat.ne_of_gt nonempty
  cases adjustment with
  | move delta =>
    simp only [adjust, move, if_neg some_row]
    exact ⟨_, rfl, rfl, fun _ => rfl⟩
  | put index =>
    simp only [adjust, put, if_neg some_row]
    exact ⟨_, rfl, rfl, fun _ => rfl⟩
  | setHeight height => exact ⟨{ cursor with height := height }, rfl, rfl, fun _ => rfl⟩
  | setScrolloff scrolloff => exact ⟨{ cursor with scrolloff := scrolloff }, rfl, rfl, fun _ => rfl⟩
  | clamp =>
    simp only [adjust, clamp, if_neg some_row]
    exact ⟨_, rfl, rfl, fun _ => rfl⟩
  | resume =>
    exact ⟨{ cursor with offset := cursor.shownOffset size, mode := .normal }, rfl, rfl,
      fun other => absurd rfl other⟩

/-- An adjustment that leaves the cursor on a row settles it. -/
theorem settled_adjust (nonempty : 0 < size) {adjustment : Adjustment}
    (inside : (cursor.adjust size adjustment).index < size) :
    (cursor.adjust size adjustment).Settled size := by
  obtain ⟨prepared, followed, _⟩ := adjust_eq_follow nonempty cursor adjustment
  rw [followed, follow_index] at inside
  rw [followed]
  exact settled_follow fun _ => inside

/-- Making the same adjustment once more changes nothing, unless it is a move. -/
theorem adjust_adjust (nonempty : 0 < size) {adjustment : Adjustment}
    (inside : (cursor.adjust size adjustment).index < size)
    (still : ∀ delta, adjustment ≠ .move delta) :
    (cursor.adjust size adjustment).adjust size adjustment = cursor.adjust size adjustment := by
  have settled := settled_adjust nonempty inside
  have followed := settled.follow_eq_self
  cases adjustment with
  | move delta => exact absurd rfl (still delta)
  | put index => exact put_put cursor index size
  | clamp => exact clamp_clamp cursor size
  | setHeight height =>
    have same : { cursor.setHeight height size with height := height } =
        cursor.setHeight height size := by
      rw [setHeight, follow_eq]
    exact (congrArg (follow · size) same).trans followed
  | setScrolloff scrolloff =>
    have same : { cursor.setScrolloff scrolloff size with scrolloff := scrolloff } =
        cursor.setScrolloff scrolloff size := by
      rw [setScrolloff, follow_eq]
    exact (congrArg (follow · size) same).trans followed
  | resume =>
    have normal : (cursor.setMode .normal size).mode = .normal := follow_mode _ _
    have kept := settled.shownOffset_eq normal
    rw [adjust] at kept
    have same : { cursor.setMode .normal size with
          offset := (cursor.setMode .normal size).shownOffset size
          mode := .normal } = cursor.setMode .normal size := by
      rw [kept, setMode, follow_eq]
    exact (congrArg (follow · size) same).trans followed

/-- The law of least movement.  Whatever an adjustment was made to, if it leaves a cursor of normal
mode on a row and a viewport with rows, then of all offsets that fit this row the viewport is on the
nearest one to where it was before, cut down to the largest offset without blank rows.  So it does
not move where that still fits, and adjusting once more changes nothing.  Where it was before is the
offset that the cursor has kept, which is what was shown of it. -/
theorem adjust_nearest (nonempty : 0 < size) (cursor : Cursor) (adjustment : Adjustment) :
    let after := cursor.adjust size adjustment
    let before := cursor.offsetBefore size adjustment
    after.mode = .normal → 0 < after.height → after.index < size →
      Nearest (fun offset => after.Fits size offset after.index)
        (min before (size - after.height)) after.offset ∧
      (after.Fits size before after.index → after.offset = before) ∧
      after.follow size = after ∧
      ((∀ delta, adjustment ≠ .move delta) → after.adjust size adjustment = after) ∧
      (adjustment ≠ .resume → ∀ earlier,
        cursor.offset ≤ cursor.maxOffset earlier ∨ size - after.height ≤ cursor.maxOffset earlier →
          min (cursor.shownOffset earlier) (size - after.height) =
            min before (size - after.height)) := by
  intro after before normal tall inside
  obtain ⟨prepared, followed, start, mode⟩ := adjust_eq_follow nonempty cursor adjustment
  have settled : after.Settled size := settled_adjust nonempty inside
  have nearest : Nearest (fun offset => after.Fits size offset after.index)
      (min before (size - after.height)) after.offset := by
    have same : after = prepared.follow size := followed
    rw [same, follow_mode] at normal
    rw [same, follow_height] at tall
    have start : prepared.offset = before := start
    simp only [same, fits_follow, follow_index, follow_height]
    rw [← start]
    exact follow_nearest normal tall
  refine ⟨nearest, ?_, settled.follow_eq_self, adjust_adjust nonempty inside, ?_⟩
  · intro fits
    have uncut : min before (size - after.height) = before := Nat.min_eq_left fits.reach
    rw [uncut] at nearest
    exact nearest.eq_of_allowed fits
  · intro other earlier shown
    have kept : before = cursor.offset := by
      cases adjustment with
      | resume => exact absurd rfl other
      | _ => rfl
    rw [kept]
    refine min_shownOffset ?_ shown
    rw [← mode other, ← follow_mode prepared size, ← followed]
    exact normal

/-- A cursor in the middle of a hundred rows, with two rows of margin in a viewport of ten. -/
def halfway : Cursor :=
  { index := 50, offset := 43, height := 10, scrolloff := 2 }

/-- Going up by six rows moves the viewport by one, to the nearest offset that fits. -/
theorem adjust_nearest_halfway :
    0 < 100 ∧ (halfway.adjust 100 (.put 44)).mode = .normal ∧
      0 < (halfway.adjust 100 (.put 44)).height ∧ (halfway.adjust 100 (.put 44)).index < 100 ∧
      (halfway.adjust 100 (.put 44)).offset = 42 ∧
      Nearest (fun offset => (halfway.adjust 100 (.put 44)).Fits 100 offset 44) 43 42 ∧
      (halfway.adjust 100 (.put 44)).adjust 100 (.put 44) = halfway.adjust 100 (.put 44) := by
  have normal : (halfway.adjust 100 (.put 44)).mode = .normal := by decide
  have tall : 0 < (halfway.adjust 100 (.put 44)).height := by decide
  have inside : (halfway.adjust 100 (.put 44)).index < 100 := by decide
  obtain ⟨nearest, _, _, again, _⟩ :=
    adjust_nearest (Nat.succ_pos 99) halfway (.put 44) normal tall inside
  exact ⟨Nat.succ_pos 99, normal, tall, inside, by decide, nearest, again nofun⟩

/-! ### Scrolling -/

/-- Dragging puts the cursor on the nearest row that fits the offset. -/
theorem dragged_nearest (nonempty : 0 < size) (tall : 0 < cursor.height)
    (reach : offset ≤ cursor.maxOffset size) :
    Nearest (fun row => row < size ∧ cursor.Fits size offset row) cursor.index
      (cursor.dragged offset size).index := by
  have ordered := lowestRow_le_highestRow tall offset size
  have index : (cursor.dragged offset size).index = max (cursor.lowestRow offset size)
      (min (max (cursor.lowestRow offset size) (cursor.highestRow offset size)) cursor.index) :=
    rfl
  rw [index, Nat.max_eq_right ordered]
  exact .of_interval ordered (fun _ => fits_iff_row nonempty tall reach) _

/-- As long as signed numbers count the rows, adding saturates only where the offset is cut down
anyway. -/
theorem scrolledOffset_eq (tall : 0 < cursor.height) (counted : (size : Int) ≤ largestSigned)
    (normal : cursor.mode = .normal) (delta : Int) :
    (cursor.scrolledOffset delta size : Int) =
      clampInt 0 (cursor.maxOffset size) (cursor.shownOffset size + delta) := by
  simp only [scrolledOffset, shownOffset, normal, clampInt, addSaturating, smallestSigned,
    largestSigned, maxOffset] at counted ⊢
  omega

/-- Scrolling is carried out in full where the offset that it aims at leaves no blank row. -/
theorem scroll_complied (nonempty : 0 < size) (tall : 0 < cursor.height)
    (counted : (size : Int) ≤ largestSigned) (normal : cursor.mode = .normal) (delta : Int) :
    (cursor.scroll delta size).2 = true ↔
      0 ≤ cursor.shownOffset size + delta ∧
        cursor.shownOffset size + delta ≤ cursor.maxOffset size := by
  rw [scroll, if_neg (Nat.ne_of_gt nonempty), if_neg (by simp [normal])]
  refine decide_eq_true_iff.trans ?_
  simp only [shownOffset, normal, clampInt, addSaturating, smallestSigned, largestSigned,
    maxOffset] at counted ⊢
  omega

/-- Scrolling by any number of rows.  In normal mode the offset moves by that number, as far as no
blank row is shown; it was carried out in full if that was not cut down; and of all rows that fit
the new offset the cursor is on the nearest one to where it was, so it stays on a row that fits.
Nothing else changes, and what comes of it needs no adjustment.  In the other modes scrolling is
moving.  Signed numbers count the rows of every list, so that no sum leaves their range unless it
leaves the list. -/
theorem scroll_nearest (cursor : Cursor) (size : Nat) (delta : Int) :
    let after := (cursor.scroll delta size).1
    let aim := cursor.shownOffset size + delta
    (cursor.mode = .normal → 0 < size → 0 < cursor.height → (size : Int) ≤ largestSigned →
      (after.offset : Int) = clampInt 0 (size - cursor.height : Nat) aim ∧
      after.shownOffset size = after.offset ∧
      ((cursor.scroll delta size).2 = true ↔
        clampInt 0 (size - cursor.height : Nat) aim = aim) ∧
      Nearest (fun row => row < size ∧ cursor.Fits size after.offset row) cursor.index after.index ∧
      (cursor.index < size → cursor.Fits size after.offset cursor.index →
        after.index = cursor.index) ∧
      after = { cursor with index := after.index, offset := after.offset } ∧
      after.follow size = after ∧ after.clamp size = after ∧
      after.setHeight after.height size = after ∧
      after.setScrolloff after.scrolloff size = after) ∧
    (cursor.mode ≠ .normal → cursor.scroll delta size = cursor.move delta size) := by
  intro after aim
  constructor
  · intro normal nonempty tall counted
    have dragged : after = cursor.dragged (cursor.scrolledOffset delta size) size :=
      scroll_normal (Nat.ne_of_gt nonempty) normal delta
    have reach := cursor.scrolledOffset_le delta size
    have settled : after.Settled size := by
      rw [dragged]
      exact settled_dragged reach
    have nearest := dragged_nearest nonempty tall reach
    have offset : after.offset = cursor.scrolledOffset delta size := congrArg Cursor.offset dragged
    rw [← dragged, ← offset] at nearest
    have mode : after.mode = .normal := (congrArg Cursor.mode dragged).trans normal
    refine ⟨?_, settled.shownOffset_eq mode, ?_, nearest, ?_, ?_, settled.unmoved nonempty⟩
    · rw [offset]
      exact scrolledOffset_eq tall counted normal delta
    · rw [scroll_complied nonempty tall counted normal]
      unfold clampInt maxOffset
      omega
    · exact fun inside fits => nearest.eq_of_allowed ⟨inside, fits⟩
    · rw [dragged]
      rfl
  · intro other
    by_cases empty : size = 0
    · simp only [scroll, move, if_pos empty]
    · rw [scroll, if_neg empty, if_pos other]

/-- Scrolling down by twenty rows from there drags the cursor along with the margin; scrolling up by
fifty stops at the top. -/
theorem scroll_nearest_halfway :
    halfway.mode = .normal ∧ 0 < 100 ∧ 0 < halfway.height ∧ ((100 : Nat) : Int) ≤ largestSigned ∧
      (halfway.scroll 20 100).1 = { halfway with index := 65, offset := 63 } ∧
      (halfway.scroll 20 100).2 = true ∧ (halfway.scroll (-50) 100).2 = false ∧
      Nearest (fun row => row < 100 ∧ halfway.Fits 100 63 row) 50 65 ∧
      ((halfway.scroll 20 100).1.clamp 100) = (halfway.scroll 20 100).1 := by
  have counted : ((100 : Nat) : Int) ≤ largestSigned := by decide
  have scrolled : (halfway.scroll 20 100).1 = { halfway with index := 65, offset := 63 } := by
    decide
  obtain ⟨down, _⟩ := scroll_nearest halfway 100 20
  obtain ⟨_, _, complied, nearest, _, _, _, clamped, _⟩ :=
    down rfl (Nat.succ_pos 99) (Nat.succ_pos 9) counted
  obtain ⟨up, _⟩ := scroll_nearest halfway 100 (-50)
  obtain ⟨_, _, refused, _⟩ := up rfl (Nat.succ_pos 99) (Nat.succ_pos 9) counted
  rw [scrolled] at nearest
  refine ⟨rfl, Nat.succ_pos 99, Nat.succ_pos 9, counted, scrolled, complied.mpr (by decide), ?_,
    nearest, clamped⟩
  exact Bool.eq_false_iff.mpr fun full => absurd (refused.mp full) (by decide)

end Cursor

end TrackBrowser
