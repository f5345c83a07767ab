/-
Module: TrackBrowser.Proofs.TrackList.Handling
Purpose: What a user can make of a list, and what is left intact of one that is read-only.
-/
import TrackBrowser.Proofs.TrackList.Stage

/-!
Three operations ask whether a list is read-only before they change it; the operations by which a
list follows its source do not ask, nor do those that only move tracks or mark them.  A list is
`Handled` by every operation that is not one of its source.  What is handled stays what it was: a
read-only list keeps its tracks, in some order, each with at most its selection changed.
-/

namespace TrackBrowser

/-- Whether a track is selected does not show once it is deselected. -/
@[simp] theorem Track.deselected_withSelection (track : Track) (selected : Bool) :
    Track.deselected { track with selected := selected } = track.deselected := rfl

namespace TrackList

/-! ### Marks -/

/-- The list without its marks: with no track selected, no walk begun and no redraw asked for. -/
def unmarked (list : TrackList) : TrackList :=
  { list with
    tracks := list.tracks.map Track.deselected
    selectedCount := 0
    selectedSeconds := 0
    forwardWalk := .fresh
    backwardWalk := .fresh
    redraw := false }

/-- Marking tracks and walking over the marked ones changes nothing but marks. -/
theorem survivesMarking_unmarked (start : TrackList) :
    SurvivesMarking fun list => list.unmarked = start.unmarked where
  flip := by
    intro list index canonical track selected same _ found _
    have marks : (list.flip canonical track selected).tracks.map Track.deselected =
        list.tracks.map Track.deselected :=
      map_set_of_same Track.deselected found (track.deselected_withSelection selected)
    rw [← same, unmarked, marks]
    rfl
  walks := fun _ _ same => same

/-- A list keeps its tracks but for their selection. -/
theorem deselected_kept (list : TrackList) (track : Track) :
    (list.kept track).deselected = track.deselected := by
  unfold kept
  split <;> rfl

/-! ### Intact lists -/

/-- The second list has the tracks of the first in some order, with at most their selection changed,
and is read-only if the first is. -/
structure Intact (before after : TrackList) : Prop where
  readOnly : after.readOnly = before.readOnly
  perm : (after.tracks.map Track.deselected).Perm (before.tracks.map Track.deselected)

namespace Intact

variable {first second third : TrackList}

theorem refl (list : TrackList) : Intact list list :=
  ⟨rfl, .refl _⟩

theorem trans (before : Intact first second) (after : Intact second third) : Intact first third :=
  ⟨after.readOnly.trans before.readOnly, after.perm.trans before.perm⟩

/-- Lists that differ in nothing but marks. -/
theorem of_unmarked (same : second.unmarked = first.unmarked) : Intact first second where
  readOnly := by
    have flags := congrArg TrackList.readOnly same
    exact flags
  perm := by
    have tracks := congrArg TrackList.tracks same
    exact .of_eq tracks

/-- Rebuilding the visible sequence deselects tracks but neither adds nor drops any. -/
theorem rebuild (intact : Intact first second) (wasEmpty : Bool) :
    Intact first (second.rebuild wasEmpty) where
  readOnly := intact.readOnly
  perm := by
    have same : (second.rebuild wasEmpty).tracks.map Track.deselected =
        second.tracks.map Track.deselected := by
      rw [rebuild_tracks, List.map_map]
      exact List.map_congr_left fun track _ => second.deselected_kept track
    rw [same]
    exact intact.perm

/-- The same tracks in another order. -/
theorem reorder {tracks : List Track} (perm : tracks.Perm first.tracks) :
    Intact first { first with tracks := tracks } :=
  ⟨rfl, perm.map _⟩

/-- The same tracks under other filters. -/
theorem refilter (list : TrackList) (filters : List Filter) (nextHandle : Nat) :
    Intact list { list with filters := filters, nextHandle := nextHandle } :=
  ⟨rfl, .refl _⟩

end Intact

/-! ### Operations on a read-only list -/

/-- Whether an operation lets a list follow its source.  No such operation asks whether the list is
read-only. -/
def Operation.followsSource : Operation → Bool
  | .load _ | .clear | .copyFrom _ | .truncate _ | .setReadOnly _ => true
  | _ => false

/-- Every other operation leaves a read-only list intact. -/
theorem intact_perform {list : TrackList} {operation : Operation} (locked : list.readOnly = true)
    (handles : operation.followsSource = false) : Intact list (list.perform operation) := by
  have marks := list.survivesMarking_unmarked
  cases operation with
  | load | clear | copyFrom | truncate | setReadOnly => cases handles
  | append track =>
    simp only [perform, append, locked, if_true]
    exact .refl list
  | insertAt position track =>
    simp only [perform, insertAt, locked, if_true]
    exact .refl list
  | removeAt index =>
    simp only [perform, removeAt, locked, if_true]
    exact .refl list
  | sort keys =>
    simp only [perform, sort, sortByFields]
    split
    · exact .refl list
    · exact (Intact.reorder (list.sorted_perm _)).rebuild _
  | sortByFields fields =>
    simp only [perform, sortByFields]
    split
    · exact .refl list
    · exact (Intact.reorder (list.sorted_perm _)).rebuild _
  | shuffle arrangement => exact (Intact.reorder (arrangement.perm _)).rebuild _
  | addFilter pattern mask =>
    exact (Intact.refilter list (list.filters ++ [list.newFilter pattern mask]) _).rebuild _
  | removeFilter handle =>
    simp only [perform, removeFilter]
    split
    · exact (Intact.refilter list _ _).rebuild _
    · exact .refl list
  | popFilter =>
    simp only [perform, popFilter?]
    cases list.filters.getLast? with
    | none => exact .refl list
    | some filter => exact (Intact.refilter list _ _).rebuild _
  | clearFilters =>
    simp only [perform, clearFilters]
    split
    · exact .refl list
    · exact (Intact.refilter list _ _).rebuild _
  | setSelected index selected => exact .of_unmarked (marks.setSelected rfl index selected)
  | select index action => exact .of_unmarked (marks.select rfl index action)
  | selectAll action => exact .of_unmarked (marks.selectEach rfl _ action)
  | selectMatching pattern mask first action =>
    exact .of_unmarked (marks.selectHits rfl _ mask action _ first 0)
  | nextSelected => exact .of_unmarked (marks.nextSelected rfl)
  | previousSelected => exact .of_unmarked (marks.previousSelected rfl)
  | popSelected => exact .of_unmarked (marks.popSelected rfl)
  | setHeight height =>
    simp only [perform, setHeight]
    split <;> exact ⟨rfl, .refl _⟩
  | search pattern backwards skipCurrent =>
    cases searched : list.search pattern backwards skipCurrent with
    | error failure =>
      simp only [perform, searched]
      exact .refl list
    | ok result =>
      obtain ⟨moved, found⟩ := result
      simp only [perform, searched, afterCall]
      rw [search_ok searched]
      exact ⟨rfl, .refl _⟩
  | setRegex | setCaseSensitive | markRedraw | clearRedraw | restartWalks | setScrollMode
  | setScrolloff | setWrap | moveCursor | putCursor | scroll => exact ⟨rfl, .refl _⟩

/-! ### Handled lists -/

/-- The lists that come of one by operations that are not those of its source. -/
inductive Handled (start : TrackList) : TrackList → Prop where
  | start : Handled start start
  | perform {list : TrackList} (handled : Handled start list) (operation : Operation)
      (handles : operation.followsSource = false) : Handled start (list.perform operation)

namespace Handled

variable {start middle list : TrackList}

theorem trans (before : Handled start middle) (after : Handled middle list) :
    Handled start list := by
  induction after with
  | start => exact before
  | perform _ operation handles ih => exact ih.perform operation handles

/-- Handling leaves a read-only list intact. -/
theorem intact (handled : Handled start list) (locked : start.readOnly = true) :
    Intact start list := by
  induction handled with
  | start => exact .refl start
  | perform _ operation handles ih =>
    have still := ih.readOnly.trans locked
    exact ih.trans (intact_perform still handles)

/-- A search that finds something only moves the cursor. -/
theorem search {pattern : String} {backwards skipCurrent : Bool} {found : Nat}
    (searched : start.search pattern backwards skipCurrent = .ok (list, found)) :
    Handled start list := by
  rw [search_ok searched]
  exact Handled.start.perform (.putCursor found) rfl

end Handled

end TrackList

end TrackBrowser
