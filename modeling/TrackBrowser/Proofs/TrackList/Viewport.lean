/-
Module: TrackBrowser.Proofs.TrackList.Viewport
Purpose: Whatever is done to a list, its cursor stays on a row and its viewport on the cursor.
-/
import TrackBrowser.Proofs.TrackList.Stage

/-!
A change of the visible sequence ends with the cursor being clamped, which settles it wherever it
was before; all other changes leave the sequence alone and steer the cursor by its own operations,
which keep it settled.  So the cursor is settled at every stage of an operation.
-/

namespace TrackBrowser.TrackList

variable {operation : Operation} {start list : TrackList}

/-! ### Settling -/

/-- The end of a change of the visible sequence settles the cursor. -/
theorem settled_settle (list : TrackList) (wasEmpty : Bool) :
    (list.settle wasEmpty).cursor.Settled (list.settle wasEmpty).size :=
  Cursor.settled_clamp _ _

/-- After a change of the visible sequence the cursor is on the row nearest to its old one, or at
the top when there was none. -/
theorem settle_index {wasEmpty : Bool} (nonempty : 0 < list.size) :
    (list.settle wasEmpty).cursor.index =
      if wasEmpty then 0 else min list.cursor.index (list.size - 1) := by
  have index : (list.settle wasEmpty).cursor.index =
      min (if wasEmpty && 0 < list.size then list.cursor.reset else list.cursor).index
        (list.size - 1) := Cursor.clamp_index nonempty
  rw [index]
  cases wasEmpty with
  | true => simp [nonempty, Cursor.reset]
  | false => simp

/-- Every stage of an operation on a list with a settled cursor has a settled cursor. -/
theorem Stage.settled (settled : start.cursor.Settled start.size) (stage : Stage start list) :
    list.cursor.Settled list.size := by
  induction stage with
  | start => exact settled
  | adjust _ _ _ _ _ _ _ ih => exact ih
  | steer command redraw => exact Cursor.settled_perform settled command
  | take _ _ _ => exact settled_settle _ _
  | shift _ _ ih => exact ih
  | flip _ _ _ _ ih => exact ih
  | clear => exact settled_settle _ _

/-- An operation leaves a settled cursor settled. -/
theorem Outcome.settled (settled : start.cursor.Settled start.size)
    (outcome : Outcome operation start list) : list.cursor.Settled list.size := by
  cases outcome with
  | stage stage => exact stage.settled settled
  | place _ _ => exact settled_settle _ _
  | rebuild _ => exact settled_settle _ _

/-- Every run leads to a list with a settled cursor. -/
theorem settled_run (operations : List Operation) :
    (run operations).cursor.Settled (run operations).size := by
  apply @run_induction fun list => list.cursor.Settled list.size
  · exact Cursor.settled_clamp {} 0
  · intro list operation settled
    exact (outcome_perform operation list).settled settled

/-! ### Lists that were empty -/

/-- A change of the visible sequence leaves the cursor at the top where it was there or had no
row. -/
theorem settle_top {wasEmpty : Bool} (top : wasEmpty = false → list.cursor.index = 0)
    (nonempty : list.visible ≠ []) : (list.settle wasEmpty).cursor.index = 0 := by
  rw [settle_index (List.length_pos_iff.mpr nonempty)]
  cases wasEmpty with
  | true => rfl
  | false => simp [top rfl]

/-- Where nothing was visible, nothing comes to be visible before the end of an operation. -/
theorem Stage.visible_eq_nil (empty : start.visible = []) (stage : Stage start list) :
    list.visible = [] := by
  induction stage with
  | start => exact empty
  | adjust _ _ _ _ _ _ _ ih => exact ih
  | steer command redraw => exact empty
  | take _ _ ih => rw [take_visible, ih, List.takeWhile_nil, List.dropWhile_nil]; rfl
  | shift _ _ ih => exact ih
  | flip _ _ _ _ ih => exact ih
  | clear => rfl

/-- Where an operation on an empty list has made tracks visible, the cursor is at the top. -/
theorem Outcome.top_of_empty (empty : start.visible = [])
    (outcome : Outcome operation start list) (nonempty : list.visible ≠ []) :
    list.cursor.index = 0 := by
  cases outcome with
  | stage stage => exact absurd (stage.visible_eq_nil empty) nonempty
  | place stage _ =>
    refine settle_top ?_ nonempty
    intro shown
    simp [stage.visible_eq_nil empty] at shown
  | rebuild _ =>
    refine settle_top ?_ nonempty
    intro shown
    simp [empty] at shown

/-- A change of the visible sequence that leaves nothing visible puts the cursor to the top. -/
theorem atTop_settle {wasEmpty : Bool} (empty : (list.settle wasEmpty).visible = []) :
    (list.settle wasEmpty).cursor.AtTop := by
  have size : list.size = 0 := List.length_eq_zero_iff.mpr empty
  have settled : (list.settle wasEmpty).cursor =
      (if wasEmpty && 0 < list.size then list.cursor.reset else list.cursor).clamp list.size := rfl
  rw [settled, size, Cursor.clamp, if_pos rfl]
  exact ⟨rfl, rfl⟩

/-- While nothing is visible the cursor is at the top, at every stage of an operation. -/
theorem Stage.atTop (top : start.visible = [] → start.cursor.AtTop) (stage : Stage start list)
    (empty : list.visible = []) : list.cursor.AtTop := by
  induction stage with
  | start => exact top empty
  | adjust _ _ _ _ _ _ _ ih => exact ih empty
  | steer command redraw =>
    have size : start.size = 0 := List.length_eq_zero_iff.mpr empty
    have steered := (top empty).perform command
    rwa [← size] at steered
  | take _ _ _ => exact atTop_settle empty
  | shift _ _ ih => exact ih empty
  | flip _ _ _ _ ih => exact ih empty
  | clear => exact atTop_settle empty

/-- And it is there at the end of an operation that leaves nothing visible. -/
theorem Outcome.atTop (top : start.visible = [] → start.cursor.AtTop)
    (outcome : Outcome operation start list) (empty : list.visible = []) :
    list.cursor.AtTop := by
  cases outcome with
  | stage stage => exact stage.atTop top empty
  | place _ _ => exact atTop_settle empty
  | rebuild _ => exact atTop_settle empty

/-- So it is after every run that leaves nothing visible. -/
theorem atTop_run (operations : List Operation) (empty : (run operations).visible = []) :
    (run operations).cursor.AtTop := by
  revert empty
  apply @run_induction fun list => list.visible = [] → list.cursor.AtTop
  · intro _
    exact ⟨rfl, rfl⟩
  · intro list operation top
    exact (outcome_perform operation list).atTop top

/-- A change of the visible sequence puts the cursor to the top where nothing was visible, and
leaves it there where it was. -/
theorem settle_eq_reset {wasEmpty : Bool} (top : wasEmpty = false → list.cursor.AtTop) :
    (list.settle wasEmpty).cursor = list.cursor.reset := by
  have resets : list.cursor.reset.AtTop := ⟨rfl, rfl⟩
  have settled : (list.settle wasEmpty).cursor =
      (if wasEmpty && 0 < list.size then list.cursor.reset else list.cursor).clamp list.size := rfl
  rw [settled]
  split
  · exact resets.clamp_eq_self _
  · rename_i kept
    cases wasEmpty with
    | true =>
      have size : list.size = 0 := by simpa using kept
      rw [size, Cursor.clamp, if_pos rfl]
    | false => rw [(top rfl).clamp_eq_self, (top rfl).reset_eq_self]

/-! ### What a settled cursor shows -/

theorem cursorIndex?_eq_none : list.cursorIndex? = none ↔ list.size = 0 := by
  unfold cursorIndex? Cursor.position?
  split
  · simp
    omega
  · simp
    omega

theorem cursorIndex?_lt {index : Nat} (cursor : list.cursorIndex? = some index) :
    index < list.size := by
  unfold cursorIndex? Cursor.position? at cursor
  split at cursor
  · cases cursor
    omega
  · cases cursor

/-- The shown row of a cursor that is inside is the stored one. -/
theorem cursorIndex?_of_inside (inside : list.cursor.index < list.size) :
    list.cursorIndex? = some list.cursor.index := by
  rw [cursorIndex?, Cursor.position?, if_pos (Nat.zero_lt_of_lt inside),
    Nat.min_eq_left (Nat.le_sub_one_of_lt inside)]

/-- The shown row of a settled cursor is the stored one. -/
theorem cursorIndex?_eq_some (settled : list.cursor.Settled list.size) (nonempty : list.size ≠ 0) :
    list.cursorIndex? = some list.cursor.index :=
  cursorIndex?_of_inside (settled.inside (Nat.pos_of_ne_zero nonempty))

/-- The viewport invariant.  After every run: the cursor is on a row unless there is none; the
viewport shows no blank row that it could avoid; it shows the cursor in all scroll modes; in normal
mode it keeps the margin to each edge that is not an end of the list; and an operation that makes
tracks visible where none were leaves the cursor at the top. -/
theorem viewport_run (operations : List Operation) :
    ((run operations).cursorIndex? = none ↔ (run operations).size = 0) ∧
      ((run operations).size ≠ 0 → (run operations).cursor.index < (run operations).size ∧
        (run operations).cursorIndex? = some (run operations).cursor.index) ∧
      (run operations).offset ≤ (run operations).size - (run operations).cursor.height ∧
      (0 < (run operations).size → 0 < (run operations).cursor.height →
        (run operations).offset ≤ (run operations).cursor.index ∧
          (run operations).cursor.index <
            (run operations).offset + (run operations).cursor.height) ∧
      ((run operations).cursor.mode = .normal → 0 < (run operations).cursor.height →
        let margin :=
          min (run operations).cursor.scrolloff (((run operations).cursor.height - 1) / 2)
        ((run operations).offset = 0 ∨
          (run operations).offset + margin ≤ (run operations).cursor.index) ∧
          ((run operations).offset =
              (run operations).size - (run operations).cursor.height ∨
            (run operations).cursor.index + margin <
              (run operations).offset + (run operations).cursor.height)) ∧
      ∀ operation, (run operations).size = 0 → (run (operations ++ [operation])).size ≠ 0 →
        (run (operations ++ [operation])).cursorIndex? = some 0 := by
  have settled := settled_run operations
  refine ⟨cursorIndex?_eq_none, ?_, Cursor.shownOffset_le _ _, settled.shown_window, ?_, ?_⟩
  · intro nonempty
    exact ⟨settled.inside (by omega), cursorIndex?_eq_some settled nonempty⟩
  · intro normal tall
    have offset : (run operations).offset = (run operations).cursor.offset :=
      settled.shownOffset_eq normal
    rw [offset]
    exact ⟨settled.top normal tall, settled.bottom normal tall⟩
  · intro operation empty nonempty
    have after := settled_run (operations ++ [operation])
    rw [cursorIndex?_eq_some after nonempty]
    rw [run_concat] at nonempty ⊢
    have top := (outcome_perform operation (run operations)).top_of_empty
      (List.length_eq_zero_iff.mp empty) (by simpa [size] using nonempty)
    rw [top]

end TrackBrowser.TrackList
