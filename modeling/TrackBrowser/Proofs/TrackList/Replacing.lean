/-
Module: TrackBrowser.Proofs.TrackList.Replacing
Purpose: Where the cursor and the viewport are after a track was replaced.
-/
import TrackBrowser.Proofs.Cursor.LeastMovement
import TrackBrowser.Proofs.TrackList.Positions
import TrackBrowser.Proofs.TrackList.Viewport
import TrackBrowser.Proofs.TrackList.VisibleSequence

/-!
An insertion at the position of a track takes this track out and places the new one.  Both end with
a clamp of the cursor, so in between it is brought back into a list with one row less, which nobody
gets to see.  A cursor on the last row has no row there and ends up one row higher.  A viewport that
shows the end has no room for its last row there and ends up one row higher as well, unless the
margin below the cursor brings it back.  These are the only two ways in which a replacement moves
anything.
-/

namespace TrackBrowser

namespace Cursor

variable {cursor : Cursor} {size : Nat}

/-- The cursor of a list of `size` rows after one row was taken out and another one put in. -/
def afterReplacing (cursor : Cursor) (size : Nat) : Cursor :=
  (cursor.clamp (size - 1)).clamp size

/-- The viewport shows the last row of a list that it does not show as a whole, and with the cursor
where a replacement leaves it, the margin does not reach that row. -/
def SlidesUp (cursor : Cursor) (size : Nat) : Prop :=
  cursor.height < size ∧ cursor.offset = size - cursor.height ∧
    (cursor.height = 0 ∨ min cursor.index (size - 2) + cursor.margin + 1 < size)

instance (cursor : Cursor) (size : Nat) : Decidable (cursor.SlidesUp size) :=
  inferInstanceAs (Decidable (_ ∧ _ ∧ _))

/-- Clamping changes the row and the offset only. -/
theorem clamp_eq (cursor : Cursor) (size : Nat) :
    cursor.clamp size =
      { cursor with index := (cursor.clamp size).index, offset := (cursor.clamp size).offset } := by
  unfold clamp
  split
  · rfl
  · rw [follow_eq]

@[simp] theorem clamp_mode (cursor : Cursor) (size : Nat) :
    (cursor.clamp size).mode = cursor.mode := by
  rw [clamp_eq]

@[simp] theorem clamp_height (cursor : Cursor) (size : Nat) :
    (cursor.clamp size).height = cursor.height := by
  rw [clamp_eq]

@[simp] theorem clamp_margin (cursor : Cursor) (size : Nat) :
    (cursor.clamp size).margin = cursor.margin := by
  unfold margin
  rw [clamp_eq]

theorem afterReplacing_eq (cursor : Cursor) (size : Nat) :
    cursor.afterReplacing size =
      { cursor with
        index := (cursor.afterReplacing size).index
        offset := (cursor.afterReplacing size).offset } := by
  unfold afterReplacing
  rw [clamp_eq (cursor.clamp (size - 1)), clamp_eq cursor]

/-- The cursor leaves the last row, unless there is no other. -/
theorem afterReplacing_index (nonempty : 0 < size) :
    (cursor.afterReplacing size).index = min cursor.index (size - 2) := by
  rw [afterReplacing, clamp_index nonempty]
  by_cases single : size = 1
  · omega
  · rw [clamp_index (by omega)]
    omega

/-- The offset of a clamped cursor whose viewport has no rows. -/
theorem clamp_offset_of_flat (nonempty : 0 < size) (normal : cursor.mode = .normal)
    (flat : cursor.height = 0) :
    (cursor.clamp size).offset = min cursor.offset (cursor.maxOffset size) := by
  have moved : { cursor with index := min cursor.index (size - 1) }.mode = .normal := normal
  rw [clamp, if_neg (Nat.ne_of_gt nonempty), follow_offset moved, if_pos flat]
  rfl

/-- The offset of a clamped cursor whose viewport has rows: the nearest one to the old offset that
fits the row of the cursor. -/
theorem clamp_offset_of_tall (nonempty : 0 < size) (normal : cursor.mode = .normal)
    (tall : 0 < cursor.height) :
    (cursor.clamp size).offset =
      max (cursor.lowestOffset (min cursor.index (size - 1)) size)
        (min (cursor.highestOffset (min cursor.index (size - 1)) size)
          (min cursor.offset (cursor.maxOffset size))) := by
  have moved : { cursor with index := min cursor.index (size - 1) }.mode = .normal := normal
  rw [clamp, if_neg (Nat.ne_of_gt nonempty), follow_offset_eq moved tall]
  rfl

/-- With one row less the viewport moves only where it would show a blank row. -/
theorem clamp_shorter_offset (settled : cursor.Settled size) (long : 1 < size)
    (normal : cursor.mode = .normal) :
    (cursor.clamp (size - 1)).offset = min cursor.offset (size - 1 - cursor.height) := by
  have shorter : 0 < size - 1 := Nat.sub_pos_of_lt long
  rcases Nat.eq_zero_or_pos cursor.height with flat | tall
  · exact clamp_offset_of_flat shorter normal flat
  · have below : cursor.lowestOffset (min cursor.index (size - 1 - 1)) (size - 1) ≤
        min cursor.offset (cursor.maxOffset (size - 1)) := by
      have bottom := settled.bottom normal tall
      unfold lowestOffset
      unfold maxOffset at bottom ⊢
      rcases bottom with last | within
      · omega
      · omega
    have above : min cursor.offset (cursor.maxOffset (size - 1)) ≤
        cursor.highestOffset (min cursor.index (size - 1 - 1)) (size - 1) := by
      have top := settled.top normal tall
      have room := two_mul_margin_lt tall
      unfold highestOffset maxOffset
      rcases top with first | within
      · omega
      · omega
    rw [clamp_offset_of_tall shorter normal tall, Nat.min_eq_right above, Nat.max_eq_right below]
    rfl

/-- A cursor whose only row is replaced is back at the top. -/
theorem afterReplacing_one (cursor : Cursor) : (cursor.afterReplacing 1).offset = 0 := by
  have top : cursor.reset.AtTop := ⟨rfl, rfl⟩
  have back : cursor.afterReplacing 1 = cursor.reset.clamp 1 := rfl
  rw [back, top.clamp_eq_self]
  rfl

/-- The offset after a replacement, in a viewport that has rows: the one of the list in between, or
the first one that has the margin below the cursor. -/
theorem afterReplacing_offset_of_tall (settled : cursor.Settled size) (long : 1 < size)
    (normal : cursor.mode = .normal) (tall : 0 < cursor.height) :
    (cursor.afterReplacing size).offset =
      max (cursor.lowestOffset (min cursor.index (size - 2)) size)
        (min cursor.offset (size - 1 - cursor.height)) := by
  have nonempty : 0 < size := Nat.zero_lt_of_lt long
  have still : (cursor.clamp (size - 1)).mode = .normal := (clamp_mode _ _).trans normal
  have rows : 0 < (cursor.clamp (size - 1)).height := tall.trans_eq (clamp_height _ _).symm
  have row : min (cursor.clamp (size - 1)).index (size - 1) = min cursor.index (size - 2) := by
    rw [← clamp_index nonempty]
    exact afterReplacing_index nonempty
  have offset := clamp_shorter_offset settled long normal
  have within : min cursor.offset (size - 1 - cursor.height) ≤ size - cursor.height := by omega
  have above : min cursor.offset (size - 1 - cursor.height) ≤
      min (min cursor.index (size - 2) - cursor.margin) (size - cursor.height) := by
    have top := settled.top normal tall
    have room := two_mul_margin_lt tall
    apply Nat.le_min_of_le_of_le _ within
    rcases top with first | above
    · rw [first, Nat.zero_min]
      exact Nat.zero_le _
    · omega
  rw [afterReplacing, clamp_offset_of_tall nonempty still rows, row, offset]
  simp only [lowestOffset, highestOffset, maxOffset, clamp_height, clamp_margin]
  rw [Nat.min_eq_left within, Nat.min_eq_right above]

/-- A viewport without rows has no margin to keep. -/
theorem afterReplacing_offset_of_flat (settled : cursor.Settled size) (long : 1 < size)
    (normal : cursor.mode = .normal) (flat : cursor.height = 0) :
    (cursor.afterReplacing size).offset = min cursor.offset (size - 1) := by
  have still : (cursor.clamp (size - 1)).mode = .normal := (clamp_mode _ _).trans normal
  have height : (cursor.clamp (size - 1)).height = 0 := (clamp_height _ _).trans flat
  rw [afterReplacing, clamp_offset_of_flat (Nat.zero_lt_of_lt long) still height,
    clamp_shorter_offset settled long normal, maxOffset, height, flat, Nat.sub_zero, Nat.sub_zero]
  omega

/-- In normal mode the viewport stays where it is, unless it slides up by one row. -/
theorem afterReplacing_offset (settled : cursor.Settled size) (nonempty : 0 < size)
    (normal : cursor.mode = .normal) :
    (cursor.afterReplacing size).offset =
      if cursor.SlidesUp size then cursor.offset - 1 else cursor.offset := by
  have reach : cursor.offset ≤ size - cursor.height := settled.reach normal
  rcases Nat.lt_or_eq_of_le (Nat.succ_le_of_lt nonempty) with long | rfl
  · rcases Nat.eq_zero_or_pos cursor.height with flat | tall
    · rw [afterReplacing_offset_of_flat settled long normal flat]
      split
      · rename_i slides
        obtain ⟨_, last, _⟩ := slides
        omega
      · rename_i stays
        have short : cursor.offset ≠ size - cursor.height :=
          fun last => stays ⟨by omega, last, .inl flat⟩
        omega
    · rw [afterReplacing_offset_of_tall settled long normal tall, lowestOffset, maxOffset]
      split
      · rename_i slides
        obtain ⟨overfull, last, flat | shy⟩ := slides
        · omega
        · omega
      · rename_i stays
        have inside := settled.inside nonempty
        have bottom := settled.bottom normal tall
        rw [maxOffset] at bottom
        by_cases last : cursor.height < size ∧ cursor.offset = size - cursor.height
        · have reaches : ¬ min cursor.index (size - 2) + cursor.margin + 1 < size :=
            fun shy => stays ⟨last.1, last.2, .inr shy⟩
          omega
        · omega
  · rw [afterReplacing_one]
    split
    · omega
    · rename_i stays
      have short : cursor.offset ≠ 1 := fun last => stays ⟨by omega, by omega, by omega⟩
      omega

/-- In the other modes the offset is that of the row on which the cursor is. -/
theorem shownOffset_afterReplacing (nonempty : 0 < size) (derived : cursor.mode ≠ .normal) :
    (cursor.afterReplacing size).shownOffset size =
      { cursor with index := min cursor.index (size - 2) }.shownOffset size := by
  rw [afterReplacing_eq, afterReplacing_index nonempty]
  cases mode : cursor.mode with
  | normal => exact absurd mode derived
  | centered => simp only [shownOffset, maxOffset]
  | relative => simp only [shownOffset, maxOffset, relativeRow]

end Cursor

namespace TrackList

variable {list : TrackList} {canonical position : Nat}

/-- A change of the visible sequence clamps the cursor and moves it no farther, where the cursor of
a list without rows is at the top. -/
theorem settle_cursor {wasEmpty : Bool} (top : wasEmpty = true → list.cursor.AtTop) :
    (list.settle wasEmpty).cursor = list.cursor.clamp list.size := by
  have settled : (list.settle wasEmpty).cursor =
      (if wasEmpty && 0 < list.size then list.cursor.reset else list.cursor).clamp list.size := rfl
  rw [settled]
  cases wasEmpty with
  | true => rw [(top rfl).reset_eq_self, ite_self]
  | false => rfl

/-- Without filters all tracks are visible. -/
theorem Coherent.size_of_unfiltered (coherent : list.Coherent) (unfiltered : list.filters = []) :
    list.size = list.tracks.length := by
  have all : list.tracks.filter list.passes = list.tracks :=
    List.filter_eq_self.mpr fun track _ => passes_of_unfiltered list track unfiltered
  rw [size, coherent.visible_eq, length_passingIndices, all]

/-- The rows of an unfiltered list after one of its tracks was taken out. -/
theorem Coherent.size_take (coherent : list.Coherent) (unfiltered : list.filters = [])
    (inside : canonical < list.tracks.length) (old : Track) :
    (list.take canonical old).size = list.size - 1 := by
  have taken := coherent.take canonical old
  rw [taken.size_of_unfiltered unfiltered, coherent.size_of_unfiltered unfiltered,
    length_tracks_take inside]

/-- A replaced track leaves as many rows as there were. -/
theorem Coherent.size_replaced (coherent : list.Coherent) (unfiltered : list.filters = [])
    (inside : canonical < list.tracks.length) (old track : Track) :
    (((list.take canonical old).shiftFrom canonical).place canonical track).size = list.size := by
  have shifted := (coherent.take canonical old).shiftFrom canonical
  have room : canonical ≤ ((list.take canonical old).shiftFrom canonical).tracks.length := by
    rw [length_tracks_shiftFrom, length_tracks_take inside]
    exact Nat.le_sub_one_of_lt inside
  have placed := shifted.place room track
  rw [placed.size_of_unfiltered unfiltered, coherent.size_of_unfiltered unfiltered, place_tracks,
    List.length_insertIdx_of_le_length room, length_tracks_shiftFrom, length_tracks_take inside]
  exact Nat.sub_add_cancel (Nat.one_le_of_lt inside)

/-- A replacement clamps the cursor twice: in the list without the track, and in the one with its
replacement. -/
theorem Coherent.cursor_replaced (coherent : list.Coherent) (unfiltered : list.filters = [])
    (inside : canonical < list.tracks.length) (old track : Track) :
    (((list.take canonical old).shiftFrom canonical).place canonical track).cursor =
      list.cursor.afterReplacing list.size := by
  have shown : list.visible.isEmpty = false := by
    have size : list.visible.length = list.tracks.length := coherent.size_of_unfiltered unfiltered
    rw [List.isEmpty_eq_false_iff, ← List.length_pos_iff, size]
    exact Nat.zero_lt_of_lt inside
  have between : (list.take canonical old).cursor = list.cursor.clamp (list.size - 1) := by
    rw [← coherent.size_take unfiltered inside old]
    apply settle_cursor
    intro empty
    rw [shown] at empty
    contradiction
  have top : (list.take canonical old).visible.isEmpty = true →
      (list.take canonical old).cursor.AtTop := by
    intro empty
    exact atTop_settle (List.isEmpty_iff.mp empty)
  rw [Cursor.afterReplacing, ← between, ← coherent.size_replaced unfiltered inside old track]
  exact settle_cursor top

/-- What a replacement in an unfiltered list leaves of its rows and its cursor. -/
theorem Dense.rows_insertAt (dense : list.Dense) (coherent : list.Coherent)
    (unfiltered : list.filters = []) (editable : list.readOnly = false)
    (inside : position < list.tracks.length) (track : Track) :
    (list.perform (.insertAt position track)).size = list.size ∧
      (list.perform (.insertAt position track)).cursor =
        list.cursor.afterReplacing list.size := by
  obtain ⟨old, inserted⟩ := dense.insertAt_held editable inside track
  have performed : list.perform (.insertAt position track) =
      ((list.take position old).shiftFrom position).place position
        { track with position := some position } := by
    simp only [TrackList.perform, inserted, afterCall]
  rw [performed]
  exact ⟨coherent.size_replaced unfiltered inside old _,
    coherent.cursor_replaced unfiltered inside old _⟩

/-- Replacing a track moves the cursor and the viewport at the end of the list only.  After every
run that leaves an unfiltered list whose tracks hold exactly their own indices, an insertion at the
position of a track keeps the number of rows.  The cursor stays on its row unless this is the last
of several, which it leaves for the one above.  In normal mode the viewport slides up by one row
where it showed the last row of a list that it does not show as a whole, unless the margin below the
cursor holds it there, and stays where it is otherwise.  In the other modes it is where the row of
the cursor puts it.  A read-only list stays as it is. -/
theorem replacing_run (operations : List Operation) {position : Nat} (track : Track)
    (dense : (run operations).Dense) (unfiltered : (run operations).filters = [])
    (inside : position < (run operations).tracks.length) :
    let list := run operations
    let after := list.perform (.insertAt position track)
    let row := min list.cursor.index (list.size - 2)
    (list.readOnly = true → after = list) ∧
      (list.readOnly = false →
        after.size = list.size ∧ after.cursorIndex? = some row ∧
          (after.cursorIndex? = list.cursorIndex? ↔
            list.size = 1 ∨ list.cursor.index + 1 < list.size) ∧
          (list.cursor.mode = .normal →
            after.offset =
              if list.cursor.SlidesUp list.size then list.offset - 1 else list.offset) ∧
          (list.cursor.mode ≠ .normal →
            after.offset = { list.cursor with index := row }.shownOffset list.size)) := by
  intro list after row
  have coherent : list.Coherent := .run operations
  have settled : list.cursor.Settled list.size := settled_run operations
  have nonempty : 0 < list.size := by
    rw [coherent.size_of_unfiltered unfiltered]
    exact Nat.zero_lt_of_lt inside
  constructor
  · intro locked
    have refused : list.insertAt position track = .error .readOnly := by
      rw [insertAt, if_pos locked]
    exact congrArg list.afterCall refused
  · intro editable
    obtain ⟨size, cursor⟩ := dense.rows_insertAt coherent unfiltered editable inside track
    have size : after.size = list.size := size
    have cursor : after.cursor = list.cursor.afterReplacing list.size := cursor
    have index : after.cursor.index = row := by
      rw [cursor]
      exact Cursor.afterReplacing_index nonempty
    have onRow : after.cursorIndex? = some row := by
      rw [← index]
      apply cursorIndex?_of_inside
      rw [index, size]
      exact Nat.lt_of_le_of_lt (Nat.min_le_left _ _) (settled.inside nonempty)
    refine ⟨size, onRow, ?_, ?_, ?_⟩
    · have before := cursorIndex?_eq_some settled (Nat.ne_of_gt nonempty)
      have within := settled.inside nonempty
      rw [onRow, before, Option.some_inj]
      omega
    · intro normal
      have still : after.cursor.mode = .normal := by
        rw [cursor, Cursor.afterReplacing, Cursor.clamp_mode, Cursor.clamp_mode]
        exact normal
      have resettled : after.cursor.Settled after.size := by
        have performed := settled_run (operations ++ [.insertAt position track])
        rwa [run_concat] at performed
      have shown : after.offset = after.cursor.offset := resettled.shownOffset_eq still
      have kept : list.offset = list.cursor.offset := settled.shownOffset_eq normal
      rw [shown, kept, cursor]
      exact Cursor.afterReplacing_offset settled nonempty normal
    · intro derived
      have shown : after.offset =
          (list.cursor.afterReplacing list.size).shownOffset list.size := by
        rw [offset, cursor, size]
      exact shown.trans (Cursor.shownOffset_afterReplacing nonempty derived)

/-- Three numbered tracks in a viewport of two rows, with the cursor on the last track. -/
def endOfListRun : List Operation :=
  [.setHeight 2, .append { file := "a.ogg", position := some 0 },
    .append { file := "b.ogg", position := some 1 },
    .append { file := "c.ogg", position := some 2 }, .putCursor 2]

theorem dense_endOfListRun : (run endOfListRun).Dense := by
  have start : (run []).Dense := fun index inside => absurd inside (Nat.not_lt_zero index)
  have low := start.perform endOfListRun[0] trivial
  have one := low.perform endOfListRun[1] rfl
  have two := one.perform endOfListRun[2] rfl
  have three := two.perform endOfListRun[3] rfl
  exact three.perform endOfListRun[4] trivial

/-- Replacing the first track moves both the cursor and the viewport up by one row. -/
theorem replacing_run_endOfListRun :
    let list := run endOfListRun
    let after := list.perform (.insertAt 0 { file := "d.ogg" })
    list.Dense ∧ list.filters = [] ∧ 0 < list.tracks.length ∧ list.readOnly = false ∧
      list.cursor.mode = .normal ∧ list.cursor.SlidesUp list.size ∧
      after.size = 3 ∧ after.cursorIndex? = some 1 ∧ after.offset = 0 := by
  intro list after
  have unfiltered : list.filters = [] := by decide +kernel
  have inside : 0 < list.tracks.length := by decide +kernel
  have editable : list.readOnly = false := by decide +kernel
  have normal : list.cursor.mode = .normal := by decide +kernel
  have slides : list.cursor.SlidesUp list.size := by decide +kernel
  have three : list.size = 3 := by decide +kernel
  have row : min list.cursor.index (list.size - 2) = 1 := by decide +kernel
  have offset : list.offset - 1 = 0 := by decide +kernel
  obtain ⟨_, replaces⟩ :=
    replacing_run endOfListRun { file := "d.ogg" } dense_endOfListRun unfiltered inside
  obtain ⟨size, cursor, _, slid, _⟩ := replaces editable
  refine ⟨dense_endOfListRun, unfiltered, inside, editable, normal, slides, ?_, ?_, ?_⟩
  · exact size.trans three
  · exact cursor.trans (congrArg some row)
  · exact (slid normal).trans ((if_pos slides).trans offset)

/-- So a replacement does not leave every cursor and every viewport where they are. -/
theorem not_replacing_stays :
    ¬ ∀ operations position track, (run operations).Dense → (run operations).filters = [] →
      position < (run operations).tracks.length →
        let after := (run operations).perform (.insertAt position track)
        after.size = (run operations).size ∧
          after.cursorIndex? = (run operations).cursorIndex? ∧
            after.offset = (run operations).offset := by
  intro stays
  obtain ⟨_, cursor, _⟩ :=
    stays endOfListRun 0 { file := "d.ogg" } dense_endOfListRun (by decide +kernel)
      (by decide +kernel)
  revert cursor
  decide +kernel

end TrackList

end TrackBrowser
