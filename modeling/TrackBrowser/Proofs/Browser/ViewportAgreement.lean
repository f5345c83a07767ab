/-
Module: TrackBrowser.Proofs.Browser.ViewportAgreement
Purpose: Views of tracks and views of plain rows move their cursors and viewports alike.
-/
import TrackBrowser.Browser.View
import TrackBrowser.Proofs.Cursor.Viewport
import TrackBrowser.Proofs.TrackList.Stage

/-!
A view of tracks leaves cursor and viewport to its list, a view of plain rows has a cursor of its
own, and the two go different ways: a list ignores a height that it has already, and goes back to
the top when tracks come into sight where none were, while plain rows only clamp their cursor.
`trace_eq` says that nobody can tell: as long as both are given equally many rows, the two return
and report the same at every step.

`Alike` is the relation that the steps keep.  A settled cursor does not move when it is given the
height that it has, and the cursor of an empty view is at the top already, so neither difference is
ever seen.
-/

namespace TrackBrowser

/-! ### Cursors -/

namespace Cursor

/-- What an operation of a cursor returns. -/
def answer (cursor : Cursor) (size : Nat) : Operation → Option Bool
  | .setMode _ | .setScrolloff _ | .setWrap _ | .setHeight _ => none
  | .move delta => some (cursor.move delta size).2
  | .put index => some (cursor.put index size).2
  | .scroll delta => some (cursor.scroll delta size).2

end Cursor

/-! ### Steps of a view -/

/-- What is done to a view: its cursor is steered, or all that it shows is replaced.  Of the
replacement a view of tracks takes the tracks and a view of plain rows takes the rows. -/
inductive ViewStep where
  | steer (operation : Cursor.Operation)
  | refill (tracks : List Track) (rows : List String) (same : tracks.length = rows.length)

/-- What a view tells about its cursor and its viewport. -/
structure ViewReport where
  size : Nat
  cursorIndex? : Option Nat
  offset : Nat
  height : Nat
  scrollMode : ScrollMode
  deriving DecidableEq, Repr, Inhabited

namespace View

/-- What a view tells now. -/
def report (view : View) : ViewReport where
  size := view.size
  cursorIndex? := view.cursorIndex?
  offset := view.offset
  height := view.height
  scrollMode := view.scrollMode

/-- The view after an operation on its cursor, and what the operation returned. -/
def perform (view : View) : Cursor.Operation → View × Option Bool
  | .setMode mode => (view.setScrollMode mode, none)
  | .setScrolloff scrolloff => (view.setScrolloff scrolloff, none)
  | .setWrap wrap => (view.setWrap wrap, none)
  | .setHeight height => (view.setHeight height, none)
  | .move delta => ((view.moveCursor delta).1, some (view.moveCursor delta).2)
  | .put index => ((view.putCursor index).1, some (view.putCursor index).2)
  | .scroll delta => ((view.scroll delta).1, some (view.scroll delta).2)

/-- An operation on the cursor of plain rows is the operation of the cursor. -/
theorem perform_rows (kind : ViewKind) (title : String) (rows : List String) (cursor : Cursor)
    (operation : Cursor.Operation) :
    View.perform ⟨kind, title, .rows rows cursor⟩ operation =
      (⟨kind, title, .rows rows (cursor.perform rows.length operation)⟩,
        cursor.answer rows.length operation) := by
  cases operation <;> rfl

/-- The view after a step, and what the step returned. -/
def take (view : View) : ViewStep → View × Option Bool
  | .steer operation => view.perform operation
  | .refill tracks rows _ => ((view.modifyList fun list => list.load tracks).setRows rows, none)

/-- What the steps return, one after the other, and what the view tells after each. -/
def trace (view : View) : List ViewStep → List (Option Bool × ViewReport)
  | [] => []
  | step :: steps =>
    let (after, returned) := view.take step
    (returned, after.report) :: after.trace steps

end View

/-! ### Tracks and plain rows -/

/-- A list without filters, and plain rows with a cursor, that show the same. -/
structure Alike (list : TrackList) (rows : List String) (cursor : Cursor) : Prop where
  unfiltered : list.filters = []
  sizes : list.size = rows.length
  cursors : list.cursor = cursor
  settled : cursor.Settled rows.length
  top : rows.length = 0 → cursor.AtTop

namespace Alike

variable {list : TrackList} {rows : List String} {cursor : Cursor} {first second : ViewKind}
  {title other : String}

/-- They tell the same. -/
theorem report_eq (alike : Alike list rows cursor) :
    View.report ⟨first, title, .tracks list⟩ = View.report ⟨second, other, .rows rows cursor⟩ := by
  have size : View.size ⟨first, title, .tracks list⟩ =
      View.size ⟨second, other, .rows rows cursor⟩ := alike.sizes
  have cursors : View.cursor ⟨first, title, .tracks list⟩ =
      View.cursor ⟨second, other, .rows rows cursor⟩ := alike.cursors
  simp only [View.report, View.cursorIndex?, View.offset, View.height, View.scrollMode, size,
    cursors]

/-- An operation on the cursor of a list is the operation of the cursor as well, even where the list
ignores it. -/
theorem perform_tracks (kind : ViewKind) (title : String) (list : TrackList)
    (settled : list.cursor.Settled list.size) (operation : Cursor.Operation) :
    ∃ redraw, View.perform ⟨kind, title, .tracks list⟩ operation =
      (⟨kind, title, .tracks
          { list with cursor := list.cursor.perform list.size operation, redraw := redraw }⟩,
        list.cursor.answer list.size operation) := by
  cases operation with
  | setMode mode => exact ⟨true, rfl⟩
  | setScrolloff scrolloff => exact ⟨list.redraw, rfl⟩
  | setWrap wrap => exact ⟨list.redraw, rfl⟩
  | setHeight height =>
    by_cases same : height = list.cursor.height
    · refine ⟨list.redraw, ?_⟩
      subst same
      have kept : list.cursor.perform list.size (.setHeight list.cursor.height) = list.cursor :=
        settled.follow_eq_self
      rw [kept]
      simp only [View.perform, View.setHeight, TrackList.setHeight, if_true]
      rfl
    · refine ⟨true, ?_⟩
      simp only [View.perform, View.setHeight, TrackList.setHeight, if_neg same]
      rfl
  | move delta => exact ⟨true, rfl⟩
  | put index => exact ⟨true, rfl⟩
  | scroll delta => exact ⟨true, rfl⟩

/-- A list without filters shows all tracks that it is given. -/
theorem size_load (list : TrackList) (unfiltered : list.filters = []) (tracks : List Track) :
    (list.load tracks).size = tracks.length := by
  have all : (list.load tracks).visible = List.range tracks.length :=
    (list.loaded tracks).visible_rebuild_of_unfiltered _ unfiltered
  rw [TrackList.size, all, List.length_range]

/-- A list whose tracks are replaced clamps its cursor, and nothing is left to be reset where it was
empty before. -/
theorem cursor_load (alike : Alike list rows cursor) (tracks : List Track) :
    (list.load tracks).cursor = cursor.clamp tracks.length := by
  have size := size_load list alike.unfiltered tracks
  have settled : (list.load tracks).cursor =
      (if list.visible.isEmpty && 0 < (list.load tracks).size then list.cursor.reset
        else list.cursor).clamp (list.load tracks).size := rfl
  rw [settled, size, alike.cursors]
  split
  · rename_i empty
    have none : rows.length = 0 := by
      simp only [Bool.and_eq_true, List.isEmpty_iff] at empty
      rw [← alike.sizes, TrackList.size, empty.1, List.length_nil]
    rw [(alike.top none).reset_eq_self]
  · rfl

/-- Replaced contents of the same size are alike again. -/
theorem refill (alike : Alike list rows cursor) {tracks : List Track} {lines : List String}
    (same : tracks.length = lines.length) :
    Alike (list.load tracks) lines (cursor.clamp lines.length) where
  unfiltered := alike.unfiltered
  sizes := by rw [size_load list alike.unfiltered, same]
  cursors := by rw [alike.cursor_load, same]
  settled := Cursor.settled_clamp _ _
  top := by
    intro empty
    rw [Cursor.clamp, if_pos empty]
    exact ⟨rfl, rfl⟩

/-- Cursors that are steered alike are alike again. -/
theorem steer (alike : Alike list rows cursor) (operation : Cursor.Operation) (redraw : Bool) :
    Alike { list with cursor := list.cursor.perform list.size operation, redraw := redraw } rows
      (cursor.perform rows.length operation) where
  unfiltered := alike.unfiltered
  sizes := alike.sizes
  cursors := by rw [alike.cursors, alike.sizes]
  settled := Cursor.settled_perform alike.settled operation
  top := by
    intro empty
    rw [empty]
    exact (alike.top empty).perform operation

/-- Whatever is done to both, they return and tell the same. -/
theorem trace_eq (alike : Alike list rows cursor) (steps : List ViewStep) :
    View.trace ⟨first, title, .tracks list⟩ steps =
      View.trace ⟨second, other, .rows rows cursor⟩ steps := by
  induction steps generalizing list rows cursor with
  | nil => rfl
  | cons step steps ih =>
    cases step with
    | refill tracks lines same =>
      have next := alike.refill same
      exact congrArg₂ List.cons (congrArg (Prod.mk none) next.report_eq) (ih next)
    | steer operation =>
      have settled : list.cursor.Settled list.size := by
        rw [alike.cursors, alike.sizes]
        exact alike.settled
      obtain ⟨redraw, performed⟩ := perform_tracks first title list settled operation
      have next := alike.steer operation redraw
      have answers : list.cursor.answer list.size operation =
          cursor.answer rows.length operation := by rw [alike.cursors, alike.sizes]
      simp only [View.trace, View.take, performed, View.perform_rows, answers]
      exact congrArg₂ List.cons (congrArg (Prod.mk _) next.report_eq) (ih next)

end Alike

namespace View

/-- A view of a list without filters and a view of equally many plain rows, both with a new cursor,
tell the same, and go on to return and tell the same at every step, however their cursors are
steered and however often their contents are replaced by equally many tracks and rows. -/
theorem trace_ofTracks_eq_ofRows (list : TrackList) (rows : List String)
    (unfiltered : list.filters = []) (fresh : list.cursor = {}) (same : list.size = rows.length)
    (kind other : ViewKind) (title heading : String) (steps : List ViewStep) :
    (View.ofTracks kind title list).report = (View.ofRows other heading rows).report ∧
      (View.ofTracks kind title list).trace steps =
        (View.ofRows other heading rows).trace steps := by
  have alike : Alike list rows {} := by
    refine ⟨unfiltered, same, fresh, ?_, fun _ => ⟨rfl, rfl⟩⟩
    constructor
    · exact fun nonempty => nonempty
    · exact fun _ => Nat.zero_le _
    · exact fun _ _ => .inl rfl
    · intro _ tall
      cases tall
  exact ⟨alike.report_eq, alike.trace_eq steps⟩

/-- A walk through three rows, none, and two. -/
def emptiedWalk : List ViewStep :=
  [.steer (.setHeight 2), .steer (.move 2), .steer (.setHeight 2), .refill [] [] rfl,
    .steer (.put 1), .refill [{ file := "c.ogg" }, { file := "d.ogg" }] ["c", "d"] rfl,
    .steer (.scroll 1)]

/-- Such a walk tells the same of three tracks and of three rows; in the end it stands on the first
row again and cannot scroll. -/
theorem trace_emptiedWalk :
    let list := ({} : TrackList).load [{ file := "a.ogg" }, { file := "b.ogg" }, {}]
    let rows := ["a", "b", ""]
    list.filters = [] ∧ list.cursor = {} ∧ list.size = rows.length ∧
      (View.ofTracks .library "Library" list).trace emptiedWalk =
        (View.ofRows .bindings "Keys" rows).trace emptiedWalk ∧
      ((View.ofTracks .library "Library" list).trace emptiedWalk).getLast? =
        some (some false, ⟨2, some 0, 0, 2, .normal⟩) := by
  intro list rows
  have shown : list.size = rows.length := by decide
  have same := (trace_ofTracks_eq_ofRows list rows rfl rfl shown .library .bindings "Library"
    "Keys" emptiedWalk).2
  refine ⟨rfl, rfl, shown, same, ?_⟩
  rw [same]
  decide

end View

end TrackBrowser
