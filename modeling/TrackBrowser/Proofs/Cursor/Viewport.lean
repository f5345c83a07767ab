/-
Module: TrackBrowser.Proofs.Cursor.Viewport
Purpose: The viewport keeps the cursor inside, and in normal mode at its margin to both edges.
-/
import Mathlib.Data.Nat.Basic
import Mathlib.Tactic.Ring
import TrackBrowser.Cursor

/-!
`Settled` is what every cursor operation leaves behind in a list of a given size: the cursor is on a
row, and in normal mode the stored offset shows no blank row and keeps the margin, unless an end of
the list is shown.  In the other modes the stored offset is not looked at, so nothing is said of it;
what they show is computed from the cursor, and `Settled.shown_window` covers all three modes.
-/

namespace TrackBrowser.Cursor

/-- The operations of a cursor, with their arguments. -/
inductive Operation where
  | setMode (mode : ScrollMode)
  | setScrolloff (scrolloff : Nat)
  | setWrap (wrap : Bool)
  | setHeight (height : Nat)
  | move (delta : Int)
  | put (index : Nat)
  | scroll (delta : Int)
  deriving DecidableEq, Repr, Inhabited

/-- The cursor after an operation in a list of `size` rows. -/
def perform (cursor : Cursor) (size : Nat) : Operation → Cursor
  | .setMode mode => cursor.setMode mode size
  | .setScrolloff scrolloff => cursor.setScrolloff scrolloff size
  | .setWrap wrap => cursor.setWrap wrap
  | .setHeight height => cursor.setHeight height size
  | .move delta => (cursor.move delta size).1
  | .put index => (cursor.put index size).1
  | .scroll delta => (cursor.scroll delta size).1

/-- A cursor that agrees with a list of `size` rows. -/
structure Settled (cursor : Cursor) (size : Nat) : Prop where
  inside : 0 < size → cursor.index < size
  reach : cursor.mode = .normal → cursor.offset ≤ cursor.maxOffset size
  top : cursor.mode = .normal → 0 < cursor.height →
    cursor.offset = 0 ∨ cursor.offset + cursor.margin ≤ cursor.index
  bottom : cursor.mode = .normal → 0 < cursor.height →
    cursor.offset = cursor.maxOffset size ∨
      cursor.index + cursor.margin < cursor.offset + cursor.height

/-! ### Margins and rows -/

/-- Both margins leave a row for the cursor. -/
theorem two_mul_margin_lt {cursor : Cursor} (tall : 0 < cursor.height) :
    2 * cursor.margin < cursor.height := by
  have half : cursor.margin ≤ (cursor.height - 1) / 2 := Nat.min_le_right _ _
  omega

/-- Relative mode puts the cursor on a row that the viewport has. -/
theorem relativeRow_le {cursor : Cursor} {rows size : Nat} (inside : cursor.index < size)
    (long : 1 < size) : cursor.relativeRow rows size ≤ rows := by
  apply Nat.le_of_lt_succ
  apply Nat.div_lt_of_lt_mul
  have share : cursor.index * rows ≤ (size - 1) * rows := Nat.mul_le_mul_right rows (by omega)
  calc cursor.index * rows * 2 + (size - 1)
      ≤ (size - 1) * rows * 2 + (size - 1) := by omega
    _ < (size - 1) * rows * 2 + 2 * (size - 1) := by omega
    _ = 2 * (size - 1) * (rows + 1) := by ring

/-- No mode shows a blank row at the bottom. -/
theorem shownOffset_le (cursor : Cursor) (size : Nat) :
    cursor.shownOffset size ≤ cursor.maxOffset size := by
  unfold shownOffset
  cases cursor.mode with
  | normal => exact Nat.min_le_right _ _
  | centered => exact Nat.min_le_right _ _
  | relative =>
    dsimp only
    split
    · exact Nat.zero_le _
    · exact Nat.min_le_right _ _

/-! ### Following -/

@[simp] theorem follow_index (cursor : Cursor) (size : Nat) :
    (cursor.follow size).index = cursor.index := by
  unfold follow
  split <;> rfl

@[simp] theorem follow_mode (cursor : Cursor) (size : Nat) :
    (cursor.follow size).mode = cursor.mode := by
  unfold follow
  split <;> rfl

@[simp] theorem follow_height (cursor : Cursor) (size : Nat) :
    (cursor.follow size).height = cursor.height := by
  unfold follow
  split <;> rfl

@[simp] theorem follow_margin (cursor : Cursor) (size : Nat) :
    (cursor.follow size).margin = cursor.margin := by
  unfold follow
  split <;> rfl

@[simp] theorem follow_maxOffset (cursor : Cursor) (size : Nat) :
    (cursor.follow size).maxOffset size = cursor.maxOffset size := by
  simp [maxOffset]

/-- Following changes the offset only. -/
theorem follow_eq (cursor : Cursor) (size : Nat) :
    cursor.follow size = { cursor with offset := (cursor.follow size).offset } := by
  unfold follow
  split <;> rfl

/-- The offset that normal mode keeps: the old one without blank rows, moved only as far as the
margin demands. -/
theorem follow_offset {cursor : Cursor} (normal : cursor.mode = .normal) (size : Nat) :
    (cursor.follow size).offset =
      if cursor.height = 0 then min cursor.offset (cursor.maxOffset size)
      else if cursor.index < min cursor.offset (cursor.maxOffset size) + cursor.margin then
        cursor.index - cursor.margin
      else if min cursor.offset (cursor.maxOffset size) + cursor.height
          ≤ cursor.index + cursor.margin then
        min (cursor.index + cursor.margin + 1 - cursor.height) (cursor.maxOffset size)
      else min cursor.offset (cursor.maxOffset size) := by
  rw [follow, if_neg (by simp [normal])]

/-- Following the cursor brings the offset to the margin, wherever it was before. -/
theorem settled_follow {cursor : Cursor} {size : Nat} (inside : 0 < size → cursor.index < size) :
    (cursor.follow size).Settled size := by
  have margins := @two_mul_margin_lt cursor
  have last : cursor.maxOffset size = size - cursor.height := rfl
  constructor
  · simpa using inside
  · intro normal
    rw [follow_maxOffset, follow_offset (by simpa using normal)]
    split
    · omega
    · split
      · omega
      · split <;> omega
  · intro normal tall
    rw [follow_height] at tall
    have room := margins tall
    rw [follow_margin, follow_index, follow_offset (by simpa using normal), if_neg (by omega)]
    split
    · omega
    · split <;> omega
  · intro normal tall
    rw [follow_height] at tall
    have room := margins tall
    rw [follow_maxOffset, follow_margin, follow_index, follow_height,
      follow_offset (by simpa using normal), if_neg (by omega)]
    split
    · omega
    · split <;> omega

/-- A settled cursor needs no following. -/
theorem Settled.follow_eq_self {cursor : Cursor} {size : Nat} (settled : cursor.Settled size) :
    cursor.follow size = cursor := by
  by_cases normal : cursor.mode = .normal
  · have kept : (cursor.follow size).offset = cursor.offset := by
      have reach := settled.reach normal
      have top := settled.top normal
      have bottom := settled.bottom normal
      rw [follow_offset normal, Nat.min_eq_left reach]
      split
      · rfl
      · rename_i tall
        have room := two_mul_margin_lt (Nat.pos_of_ne_zero tall)
        split
        · omega
        · split <;> omega
    rw [follow_eq, kept]
  · rw [follow, if_pos normal]

/-! ### What the viewport shows -/

namespace Settled

/-- In a settled list the cursor is on the screen, whatever the scroll mode. -/
theorem shown_window {cursor : Cursor} {size : Nat} (settled : cursor.Settled size)
    (nonempty : 0 < size) (tall : 0 < cursor.height) :
    cursor.shownOffset size ≤ cursor.index ∧
      cursor.index < cursor.shownOffset size + cursor.height := by
  have inside := settled.inside nonempty
  have last : cursor.maxOffset size = size - cursor.height := rfl
  have margins := two_mul_margin_lt tall
  cases mode : cursor.mode with
  | normal =>
    have reach := settled.reach mode
    have top := settled.top mode tall
    have bottom := settled.bottom mode tall
    simp only [shownOffset, mode]
    omega
  | centered =>
    simp only [shownOffset, mode]
    omega
  | relative =>
    simp only [shownOffset, mode]
    split
    · omega
    · rename_i long
      have row : cursor.relativeRow (cursor.height - 2) size ≤ cursor.height - 2 :=
        relativeRow_le inside (by omega)
      omega

/-- The offset that normal mode shows is the stored one. -/
theorem shownOffset_eq {cursor : Cursor} {size : Nat} (settled : cursor.Settled size)
    (normal : cursor.mode = .normal) : cursor.shownOffset size = cursor.offset := by
  simp only [shownOffset, normal]
  exact Nat.min_eq_left (settled.reach normal)

end Settled

/-! ### Operations -/

/-- Bringing a cursor back into a list settles it, wherever it was before. -/
theorem settled_clamp (cursor : Cursor) (size : Nat) : (cursor.clamp size).Settled size := by
  unfold clamp
  split
  · rename_i empty
    subst empty
    constructor <;> simp [reset, maxOffset]
  · apply settled_follow
    intro nonempty
    exact Nat.lt_of_le_of_lt (Nat.min_le_right _ _) (by omega)

/-- A clamped cursor is the nearest row to the one it was on. -/
theorem clamp_index {cursor : Cursor} {size : Nat} (nonempty : 0 < size) :
    (cursor.clamp size).index = min cursor.index (size - 1) := by
  rw [clamp, if_neg (by omega), follow_index]

/-- A clamped cursor is where it belongs. -/
theorem clamp_clamp (cursor : Cursor) (size : Nat) :
    (cursor.clamp size).clamp size = cursor.clamp size := by
  rcases Nat.eq_zero_or_pos size with rfl | nonempty
  · rfl
  · have settled := settled_clamp cursor size
    have inside := settled.inside nonempty
    rw [clamp.eq_def (cursor.clamp size), if_neg (Nat.ne_of_gt nonempty),
      Nat.min_eq_left (Nat.le_sub_one_of_lt inside)]
    exact settled.follow_eq_self

/-- A move ends on a row of the list. -/
theorem settled_move {cursor : Cursor} {size : Nat} (settled : cursor.Settled size) (delta : Int) :
    ((cursor.move delta size).1).Settled size := by
  unfold move
  split
  · exact settled
  · rename_i nonempty
    apply settled_follow
    intro positive
    simp only []
    split
    · omega
    · split
      · have low := Int.emod_nonneg
          (addSaturating ((min cursor.index (size - 1) : Nat) : Int) delta)
          (show (size : Int) ≠ 0 by omega)
        have high := Int.emod_lt_of_pos
          (addSaturating ((min cursor.index (size - 1) : Nat) : Int) delta)
          (show 0 < (size : Int) by omega)
        omega
      · simp only [clampInt]
        omega

/-- A cursor that is put somewhere ends on a row of the list. -/
theorem settled_put {cursor : Cursor} {size : Nat} (settled : cursor.Settled size) (index : Nat) :
    ((cursor.put index size).1).Settled size := by
  unfold put
  split
  · exact settled
  · apply settled_follow
    intro nonempty
    exact Nat.lt_of_le_of_lt (Nat.min_le_right _ _) (by omega)

/-- Putting the cursor where it has just been put does not move the viewport either. -/
theorem put_put (cursor : Cursor) (index size : Nat) :
    ((cursor.put index size).1.put index size).1 = (cursor.put index size).1 := by
  unfold put
  split
  · rfl
  · rename_i nonempty
    have settled : ({ cursor with index := min index (size - 1) }.follow size).Settled size := by
      apply settled_follow
      intro positive
      exact Nat.lt_of_le_of_lt (Nat.min_le_right _ _) (Nat.sub_one_lt_of_lt positive)
    have there := follow_index { cursor with index := min index (size - 1) } size
    dsimp only at there ⊢
    generalize { cursor with index := min index (size - 1) }.follow size = moved at settled there ⊢
    rw [← there]
    exact settled.follow_eq_self

/-- The first row that the margin allows at an offset; at the top of the list there is no margin. -/
def lowestRow (cursor : Cursor) (offset size : Nat) : Nat :=
  min (if offset = 0 then 0 else offset + cursor.margin) (size - 1)

/-- The last row that the margin allows at an offset; at the end of the list there is no margin. -/
def highestRow (cursor : Cursor) (offset size : Nat) : Nat :=
  if offset = cursor.maxOffset size then size - 1
  else min (offset + max cursor.height 1 - 1 - cursor.margin) (size - 1)

/-- The cursor of normal mode with its window put at an offset: it is dragged along only as far as
the margin demands. -/
def dragged (cursor : Cursor) (offset size : Nat) : Cursor :=
  let low := cursor.lowestRow offset size
  let high := cursor.highestRow offset size
  { cursor with index := max low (min (max low high) cursor.index), offset := offset }

/-- The offset that normal mode scrolls to. -/
def scrolledOffset (cursor : Cursor) (delta : Int) (size : Nat) : Nat :=
  (clampInt 0 (cursor.maxOffset size)
    (addSaturating (min cursor.offset (cursor.maxOffset size) : Nat) delta)).toNat

theorem scrolledOffset_le (cursor : Cursor) (delta : Int) (size : Nat) :
    cursor.scrolledOffset delta size ≤ cursor.maxOffset size := by
  simp only [scrolledOffset, clampInt]
  omega

/-- Scrolling in normal mode puts the window somewhere and drags the cursor along.  It was carried
out in full if the window is where it was aimed at. -/
theorem scroll_eq_dragged {cursor : Cursor} {size : Nat} (nonempty : size ≠ 0)
    (normal : cursor.mode = .normal) (delta : Int) :
    cursor.scroll delta size =
      (cursor.dragged (cursor.scrolledOffset delta size) size,
        decide ((cursor.scrolledOffset delta size : Int) =
          addSaturating (min cursor.offset (cursor.maxOffset size) : Nat) delta)) := by
  rw [scroll, if_neg nonempty, if_neg (by simp [normal])]
  rfl

theorem scroll_normal {cursor : Cursor} {size : Nat} (nonempty : size ≠ 0)
    (normal : cursor.mode = .normal) (delta : Int) :
    (cursor.scroll delta size).1 = cursor.dragged (cursor.scrolledOffset delta size) size := by
  rw [scroll_eq_dragged nonempty normal]

/-- A window that shows no blank row is settled once the cursor is dragged along. -/
theorem settled_dragged {cursor : Cursor} {offset size : Nat}
    (reach : offset ≤ cursor.maxOffset size) : (cursor.dragged offset size).Settled size := by
  have last : cursor.maxOffset size = size - cursor.height := rfl
  have margins := @two_mul_margin_lt cursor
  have index : (cursor.dragged offset size).index =
      max (cursor.lowestRow offset size)
        (min (max (cursor.lowestRow offset size) (cursor.highestRow offset size)) cursor.index) :=
    rfl
  have low : cursor.lowestRow offset size =
      min (if offset = 0 then 0 else offset + cursor.margin) (size - 1) := rfl
  have high : cursor.highestRow offset size =
      if offset = cursor.maxOffset size then size - 1
      else min (offset + max cursor.height 1 - 1 - cursor.margin) (size - 1) := rfl
  constructor
  · intro _
    rw [index]
    split at high <;> omega
  · intro _
    exact reach
  · intro _ tall
    have room := margins tall
    change offset = 0 ∨ offset + cursor.margin ≤ (cursor.dragged offset size).index
    split at low <;> omega
  · intro _ tall
    have room := margins tall
    change offset = cursor.maxOffset size ∨
      (cursor.dragged offset size).index + cursor.margin < offset + cursor.height
    split at high
    · omega
    · split at low <;> omega

/-- Scrolling leaves a settled cursor settled. -/
theorem settled_scroll {cursor : Cursor} {size : Nat} (settled : cursor.Settled size)
    (delta : Int) : ((cursor.scroll delta size).1).Settled size := by
  by_cases nonempty : size = 0
  · simpa [scroll, nonempty] using settled
  · by_cases normal : cursor.mode = .normal
    · rw [scroll_normal nonempty normal]
      exact settled_dragged (cursor.scrolledOffset_le delta size)
    · rw [scroll, if_neg nonempty, if_pos normal]
      exact settled_move settled delta

/-- Every operation leaves a settled cursor settled. -/
theorem settled_perform {cursor : Cursor} {size : Nat} (settled : cursor.Settled size)
    (operation : Operation) : (cursor.perform size operation).Settled size := by
  cases operation with
  | setMode mode => exact settled_follow settled.inside
  | setScrolloff scrolloff => exact settled_follow settled.inside
  | setWrap wrap => exact ⟨settled.inside, settled.reach, settled.top, settled.bottom⟩
  | setHeight height => exact settled_follow settled.inside
  | move delta => exact settled_move settled delta
  | put index => exact settled_put settled index
  | scroll delta => exact settled_scroll settled delta

/-! ### The top -/

/-- The cursor of an empty list as every operation leaves it. -/
def AtTop (cursor : Cursor) : Prop :=
  cursor.index = 0 ∧ cursor.offset = 0

namespace AtTop

variable {cursor : Cursor}

theorem reset_eq_self (top : cursor.AtTop) : cursor.reset = cursor := by
  obtain ⟨index, offset⟩ := top
  cases cursor
  cases index
  cases offset
  rfl

/-- The top belongs to a list of any size. -/
theorem settled (top : cursor.AtTop) (size : Nat) : cursor.Settled size := by
  obtain ⟨index, offset⟩ := top
  constructor
  · intro nonempty
    rwa [index]
  · intro _
    rw [offset]
    exact Nat.zero_le _
  · intro _ _
    exact .inl offset
  · intro _ tall
    have room := two_mul_margin_lt tall
    omega

/-- Bringing the cursor back into a list leaves it at the top. -/
theorem clamp_eq_self (top : cursor.AtTop) (size : Nat) : cursor.clamp size = cursor := by
  unfold clamp
  split
  · exact top.reset_eq_self
  · have first : min cursor.index (size - 1) = cursor.index := by
      rw [top.1, Nat.zero_min]
    rw [first]
    exact (top.settled size).follow_eq_self

/-- No operation moves the cursor of an empty list. -/
theorem perform (top : cursor.AtTop) (operation : Operation) :
    (cursor.perform 0 operation).AtTop := by
  have follows : ∀ {other : Cursor}, other.AtTop → (other.follow 0).AtTop := by
    intro other there
    rwa [(there.settled 0).follow_eq_self]
  cases operation with
  | setMode mode =>
    apply follows
    have least := cursor.shownOffset_le 0
    rw [maxOffset, Nat.zero_sub] at least
    exact ⟨top.1, Nat.le_zero.mp least⟩
  | setScrolloff scrolloff => exact follows top
  | setWrap wrap => exact top
  | setHeight height => exact follows top
  | move delta => exact top
  | put index => exact top
  | scroll delta => exact top

end AtTop

/-! ### Heights -/

theorem move_height (cursor : Cursor) (size : Nat) (delta : Int) :
    (cursor.move delta size).1.height = cursor.height := by
  unfold move
  split
  · rfl
  · exact follow_height _ _

theorem put_height (cursor : Cursor) (size index : Nat) :
    (cursor.put index size).1.height = cursor.height := by
  unfold put
  split
  · rfl
  · exact follow_height _ _

theorem scroll_height (cursor : Cursor) (size : Nat) (delta : Int) :
    (cursor.scroll delta size).1.height = cursor.height := by
  unfold scroll
  split
  · rfl
  · split
    · exact move_height cursor size delta
    · rfl

end TrackBrowser.Cursor
