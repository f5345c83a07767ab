/-
Module: TrackBrowser.Proofs.TrackList.Stage
Purpose: The lists that an operation passes through, one small change after the other.
-/
import TrackBrowser.Proofs.TrackList.Operation

/-!
Every operation is made of few small changes: a track is taken, a selection is flipped, positions
are shifted, the cursor is steered; and only at its end is a track placed or the visible sequence
rebuilt.  `Stage` says once which changes there are on the way, `Outcome` how an operation ends, and
`outcome_perform` that it makes no other changes.  What each small change keeps is then kept by
every operation, loops included, by induction on its stages.  No track comes on the way, so the
durations of the tracks together do not grow before the end.
-/

namespace TrackBrowser.TrackList

/-- Replacing an element by one of the same image changes no image. -/
theorem map_set_of_same {α β : Type} (image : α → β) {elements : List α} {index : Nat} {old new : α}
    (found : elements[index]? = some old) (same : image new = image old) :
    (elements.set index new).map image = elements.map image := by
  obtain ⟨inside, rfl⟩ := List.getElem?_eq_some_iff.mp found
  have mapped : index < (elements.map image).length := by simpa using inside
  have there : (elements.map image)[index] = image new := by rw [List.getElem_map, same]
  rw [List.map_set, ← there, List.set_getElem_self]

/-- Cutting some elements out of a list and changing those after them. -/
theorem getElem?_take_append_map_drop {α : Type} (elements : List α) (cut skip : Nat)
    (change : α → α) (index : Nat) :
    (elements.take cut ++ (elements.drop (cut + skip)).map change)[index]? =
      if index < cut then elements[index]? else elements[index + skip]?.map change := by
  rcases Nat.lt_or_ge elements.length cut with past | inside
  · rw [List.take_of_length_le (Nat.le_of_lt past), List.drop_of_length_le (by omega),
      List.map_nil, List.append_nil]
    split
    · rfl
    · rw [List.getElem?_eq_none (by omega), List.getElem?_eq_none (by omega), Option.map_none]
  · have length : (elements.take cut).length = cut := by
      rw [List.length_take, Nat.min_eq_left inside]
    split
    · rename_i below
      rw [List.getElem?_append_left (by omega), List.getElem?_take_of_lt below]
    · rename_i above
      have next : cut + skip + (index - cut) = index + skip := by omega
      rw [List.getElem?_append_right (by omega), length, List.getElem?_map, List.getElem?_drop,
        next]

/-! ### Lists about to be rebuilt -/

/-- The list with other tracks and their totals, before its visible sequence is rebuilt. -/
def loaded (list : TrackList) (tracks : List Track) : TrackList :=
  let selected := tracks.filter (·.selected)
  { list with
    tracks := tracks
    totalSeconds := sumWrapping (tracks.map Track.seconds)
    selectedCount := selected.length
    selectedSeconds := sumWrapping (selected.map Track.seconds) }

/-- The filter that a pattern makes under the settings of a list. -/
def newFilter (list : TrackList) (pattern : String) (mask : FieldMask) : Filter :=
  { handle := list.nextHandle
    pattern := pattern
    mask := mask
    matcher := Matcher.compile pattern list.baseOptions }

/-- The list with one more filter, before its visible sequence is rebuilt. -/
def extended (list : TrackList) (pattern : String) (mask : FieldMask) : TrackList :=
  { list with
    filters := list.filters ++ [list.newFilter pattern mask]
    nextHandle := list.nextHandle + 1 }

/-- The list with its tracks sorted, before its visible sequence is rebuilt. -/
def sorted (list : TrackList) (fields : List Field) : TrackList :=
  { list with
    tracks := fields.foldl (fun tracks field => tracks.mergeSort (list.inOrder field)) list.tracks }

/-- The list with the positions of the tracks from a canonical index on moved up. -/
def shiftFrom (list : TrackList) (canonical : Nat) : TrackList :=
  { list with
    tracks := list.tracks.take canonical ++
      (list.tracks.drop canonical).map (Track.shiftPosition (· + 1)) }

/-- Sorting by several fields only moves tracks. -/
theorem sorted_perm (list : TrackList) (fields : List Field) :
    (list.sorted fields).tracks.Perm list.tracks := by
  unfold sorted
  generalize list.tracks = tracks
  induction fields generalizing tracks with
  | nil => exact .refl _
  | cons field fields ih =>
    exact (ih (tracks.mergeSort (list.inOrder field))).trans
      (List.mergeSort_perm tracks (list.inOrder field))

/-! ### Fields after a small change -/

/-- A track as a list keeps it: one that the filters hide is not selected. -/
def kept (list : TrackList) (track : Track) : Track :=
  if list.passes track then track else track.deselected

section Fields

variable (list : TrackList) (canonical : Nat) (track : Track) (selected wasEmpty : Bool)

theorem place_tracks : (list.place canonical track).tracks =
    list.tracks.insertIdx canonical (list.kept track) := rfl

theorem place_visible : (list.place canonical track).visible =
    list.visible.takeWhile (· < canonical) ++ (if list.passes track then [canonical] else []) ++
      (list.visible.dropWhile (· < canonical)).map (· + 1) := rfl

theorem take_tracks : (list.take canonical track).tracks =
    list.tracks.take canonical ++
      (list.tracks.drop (canonical + 1)).map (Track.shiftPosition (· - 1)) := rfl

theorem take_visible : (list.take canonical track).visible =
    list.visible.takeWhile (· < canonical) ++
      ((list.visible.dropWhile (· < canonical)).filter (· != canonical)).map (· - 1) := rfl

theorem rebuild_tracks : (list.rebuild wasEmpty).tracks = list.tracks.map list.kept := rfl

theorem flip_tracks : (list.flip canonical track selected).tracks =
    list.tracks.set canonical { track with selected := selected } := rfl

theorem shiftFrom_tracks : (list.shiftFrom canonical).tracks =
    list.tracks.take canonical ++
      (list.tracks.drop canonical).map (Track.shiftPosition (· + 1)) := rfl

@[simp] theorem passes_place : (list.place canonical track).passes = list.passes := rfl

@[simp] theorem passes_take : (list.take canonical track).passes = list.passes := rfl

@[simp] theorem passes_rebuild : (list.rebuild wasEmpty).passes = list.passes := rfl

/-- Without filters every track passes. -/
theorem passes_of_unfiltered (unfiltered : list.filters = []) : list.passes track = true := by
  rw [TrackList.passes, unfiltered]
  rfl

/-- Without filters all tracks are shown. -/
theorem visible_rebuild_of_unfiltered (unfiltered : list.filters = []) :
    (list.rebuild wasEmpty).visible = List.range list.tracks.length := by
  apply List.filter_eq_self.mpr
  intro canonical inside
  rw [List.getElem?_eq_getElem (List.mem_range.mp inside), Option.any_some,
    passes_of_unfiltered _ _ unfiltered]

@[simp] theorem passes_flip : (list.flip canonical track selected).passes = list.passes := rfl

@[simp] theorem passes_shiftFrom : (list.shiftFrom canonical).passes = list.passes := rfl

end Fields

section Indices

variable {list : TrackList} {canonical : Nat} {track : Track}

theorem getElem?_take (list : TrackList) (canonical : Nat) (track : Track) (index : Nat) :
    (list.take canonical track).tracks[index]? =
      if index < canonical then list.tracks[index]?
      else list.tracks[index + 1]?.map (Track.shiftPosition (· - 1)) :=
  getElem?_take_append_map_drop list.tracks canonical 1 _ index

theorem getElem?_shiftFrom (list : TrackList) (canonical index : Nat) :
    (list.shiftFrom canonical).tracks[index]? =
      if index < canonical then list.tracks[index]?
      else list.tracks[index]?.map (Track.shiftPosition (· + 1)) :=
  getElem?_take_append_map_drop list.tracks canonical 0 _ index

theorem getElem?_place (inside : canonical ≤ list.tracks.length) (index : Nat) :
    (list.place canonical track).tracks[index]? =
      if index < canonical then list.tracks[index]?
      else if index = canonical then some (list.kept track)
      else list.tracks[index - 1]? := by
  rw [place_tracks, List.getElem?_insertIdx]
  split
  · rfl
  · split
    · rw [if_pos (by omega)]
    · rfl

theorem length_tracks_take (inside : canonical < list.tracks.length) :
    (list.take canonical track).tracks.length = list.tracks.length - 1 := by
  rw [take_tracks, List.length_append, List.length_take, List.length_map, List.length_drop]
  omega

@[simp] theorem length_tracks_shiftFrom (list : TrackList) (canonical : Nat) :
    (list.shiftFrom canonical).tracks.length = list.tracks.length := by
  rw [shiftFrom_tracks, List.length_append, List.length_take, List.length_map, List.length_drop]
  omega

end Indices

/-! ### Drafts -/

/-- What an operation makes of `start` before it rebuilds the visible sequence: other tracks, other
filters, or the same tracks in another order. -/
inductive Draft (operation : Operation) (start : TrackList) : TrackList → Prop where
  | load (tracks : List Track) : Draft operation start (start.loaded tracks)
  | reorder {tracks : List Track} (perm : tracks.Perm start.tracks) :
      Draft operation start { start with tracks := tracks }
  | narrow {filters : List Filter} (fewer : filters.Sublist start.filters) :
      Draft operation start { start with filters := filters }
  | extend {pattern : String} {mask : FieldMask} (called : operation = .addFilter pattern mask) :
      Draft operation start (start.extended pattern mask)

/-! ### Stages -/

/-- The lists that an operation on `start` passes through before it ends, or with which it ends if
it neither places a track nor rebuilds the visible sequence.  The cursor is steered at most once,
and before anything else. -/
inductive Stage (start : TrackList) : TrackList → Prop where
  | start : Stage start start
  | adjust {list : TrackList} (stage : Stage start list)
      (forwardWalk backwardWalk : SelectionWalk) (readOnly regex caseSensitive redraw : Bool) :
      Stage start
        { list with
          forwardWalk := forwardWalk
          backwardWalk := backwardWalk
          readOnly := readOnly
          regex := regex
          caseSensitive := caseSensitive
          redraw := redraw }
  | steer (command : Cursor.Operation) (redraw : Bool) :
      Stage start
        { start with cursor := start.cursor.perform start.size command, redraw := redraw }
  | take {list : TrackList} {canonical : Nat} {track : Track}
      (stage : Stage start list) (found : list.tracks[canonical]? = some track) :
      Stage start (list.take canonical track)
  | shift {list : TrackList} (stage : Stage start list) (canonical : Nat) :
      Stage start (list.shiftFrom canonical)
  | flip {list : TrackList} {index canonical : Nat} {track : Track} {selected : Bool}
      (stage : Stage start list) (shown : list.visible[index]? = some canonical)
      (found : list.tracks[canonical]? = some track) (changes : track.selected ≠ selected) :
      Stage start (list.flip canonical track selected)
  | clear : Stage start start.clear

/-- The lists with which an operation on `start` can end. -/
inductive Outcome (operation : Operation) (start : TrackList) : TrackList → Prop where
  | stage {list : TrackList} (stage : Stage start list) : Outcome operation start list
  | place {list : TrackList} {canonical : Nat} {track : Track}
      (stage : Stage start list) (inside : canonical ≤ list.tracks.length) :
      Outcome operation start (list.place canonical track)
  | rebuild {list : TrackList} (draft : Draft operation start list) :
      Outcome operation start (list.rebuild start.visible.isEmpty)

/-! ### Marking -/

/-- A property that survives when the selection of a visible track is flipped, and when a walk over
the selection is started or continued. -/
structure SurvivesMarking (property : TrackList → Prop) : Prop where
  flip : ∀ {list : TrackList} {index canonical : Nat} {track : Track} {selected : Bool},
    property list → list.visible[index]? = some canonical →
      list.tracks[canonical]? = some track → track.selected ≠ selected →
        property (list.flip canonical track selected)
  walks : ∀ {list : TrackList} (forwardWalk backwardWalk : SelectionWalk), property list →
    property { list with forwardWalk := forwardWalk, backwardWalk := backwardWalk }

namespace SurvivesMarking

variable {property : TrackList → Prop} {list : TrackList}

theorem setSelected (survives : SurvivesMarking property) (holds : property list) (index : Nat)
    (selected : Bool) : property (list.setSelected index selected).1 := by
  unfold TrackList.setSelected
  split
  · exact holds
  · rename_i canonical shown
    split
    · exact holds
    · rename_i track found
      split
      · exact holds
      · rename_i changes
        exact survives.flip holds shown found changes

theorem select (survives : SurvivesMarking property) (holds : property list) (index : Nat)
    (action : SelectAction) : property (list.select index action).1 := by
  unfold TrackList.select
  split
  · exact survives.setSelected holds index _
  · exact holds

theorem selectEach (survives : SurvivesMarking property) (holds : property list)
    (indices : List Nat) (action : SelectAction) :
    property (list.selectEach indices action).1 := by
  unfold TrackList.selectEach
  generalize 0 = changed
  induction indices generalizing list changed with
  | nil => exact holds
  | cons index indices ih => exact ih (survives.select holds index action) _

theorem selectHits (survives : SurvivesMarking property) (holds : property list)
    (matcher : Matcher) (mask : FieldMask) (action : SelectAction) (fuel index changed : Nat) :
    property (TrackList.selectHits matcher mask action fuel index changed list).1 := by
  induction fuel generalizing list index changed with
  | zero => exact holds
  | succ fuel ih =>
    unfold TrackList.selectHits
    split
    · exact holds
    · split
      · exact holds
      · split
        · exact holds
        · exact ih (survives.select holds _ action) _ _

theorem nextSelected (survives : SurvivesMarking property) (holds : property list) :
    property list.nextSelected.1 := by
  unfold TrackList.nextSelected
  split
  · exact survives.walks list.forwardWalk .fresh holds
  · split
    · exact survives.walks .done .fresh holds
    · exact survives.walks _ .fresh holds
  · exact survives.walks _ .fresh holds

theorem previousSelected (survives : SurvivesMarking property) (holds : property list) :
    property list.previousSelected.1 := by
  unfold TrackList.previousSelected
  split
  · exact survives.walks .fresh list.backwardWalk holds
  · split
    · exact survives.walks .fresh .done holds
    · exact survives.walks .fresh _ holds
  · exact survives.walks .fresh _ holds

theorem popSelected (survives : SurvivesMarking property) (holds : property list) :
    property list.popSelected.1 := by
  have next := survives.nextSelected holds
  unfold TrackList.popSelected
  split <;> rename_i found <;> rw [found] at next
  · exact next
  · exact survives.setSelected next _ false

end SurvivesMarking

/-- A stage at which no track has come or gone, so that all durations are those of the start. -/
structure Marking (start list : TrackList) : Prop where
  stage : Stage start list
  times : list.tracks.map Track.time = start.tracks.map Track.time

variable {start list : TrackList}

namespace Marking

theorem refl : Marking start start := ⟨.start, rfl⟩

/-- Neither flipping a selection nor walking over it makes tracks come or go. -/
theorem survives : SurvivesMarking (Marking start) where
  flip := by
    intro list index canonical track selected marking shown found changes
    refine ⟨marking.stage.flip shown found changes, ?_⟩
    have same : Track.time { track with selected := selected } = track.time := rfl
    exact (map_set_of_same Track.time found same).trans marking.times
  walks := by
    intro list forwardWalk backwardWalk marking
    exact ⟨marking.stage.adjust forwardWalk backwardWalk list.readOnly list.regex
      list.caseSensitive list.redraw, marking.times⟩

end Marking

namespace Stage

theorem takeAt? (stage : Stage start list) (canonical : Nat) :
    Stage start (((list.takeAt? canonical).map (·.1)).getD list) := by
  unfold TrackList.takeAt?
  cases found : list.tracks[canonical]? with
  | none => exact stage
  | some track => exact stage.take found

theorem vacate (stage : Stage start list) (position : Nat) :
    Stage start (list.vacate position) := by
  unfold TrackList.vacate
  split
  · exact stage.takeAt? _
  · exact stage

theorem dropLast (stage : Stage start list) (limit count : Nat) :
    Stage start (TrackList.dropLast limit count list) := by
  induction count generalizing list with
  | zero => exact stage
  | succ count ih =>
    have shorter := stage.takeAt? (list.tracks.length - 1)
    unfold TrackList.dropLast
    split
    · exact stage
    · cases taken : list.takeAt? (list.tracks.length - 1) with
      | none => exact stage
      | some result =>
        rw [taken] at shorter
        exact ih shorter

end Stage

/-- A search that finds something puts the cursor there and changes nothing else. -/
theorem search_ok {pattern : String} {backwards skipCurrent : Bool} {found : Nat}
    (searched : start.search pattern backwards skipCurrent = .ok (list, found)) :
    list = (start.putCursor found).1 := by
  unfold search at searched
  split at searched
  · cases searched
  · cases checked : start.checkPattern pattern with
    | error failure => simp [checked, bind, Except.bind] at searched
    | ok _ =>
      simp only [checked, bind, Except.bind] at searched
      split at searched
      · cases searched
      · cases searched
        rfl

/-- Where nothing is to do, an operation ends with the list that it began with. -/
theorem Outcome.unchanged {operation : Operation} : Outcome operation start start :=
  .stage .start

/-- An operation makes none but the changes of `Stage`, and ends as `Outcome` says. -/
theorem outcome_perform (operation : Operation) (start : TrackList) :
    Outcome operation start (start.perform operation) := by
  cases operation with
  | append track =>
    simp only [perform, append]
    split
    · exact .unchanged
    · exact .place .start (Nat.le_refl _)
  | insertAt position track =>
    simp only [perform, insertAt]
    split
    · exact .unchanged
    · refine .place ((Stage.start.vacate position).shift _) ?_
      simp
  | removeAt index =>
    simp only [perform, removeAt]
    split
    · exact .unchanged
    · split
      · rename_i result taken
        obtain ⟨canonical, shown, taken⟩ := Option.bind_eq_some_iff.mp taken
        have stage : Stage start _ := Stage.start.takeAt? canonical
        rw [taken] at stage
        exact .stage stage
      · exact .unchanged
  | load tracks => exact .rebuild (.load tracks)
  | clear => exact .stage .clear
  | copyFrom other => exact .rebuild (.load _)
  | truncate limit => exact .stage (Stage.start.dropLast limit _)
  | sort keys =>
    simp only [perform, sort, sortByFields]
    split
    · exact .unchanged
    · exact .rebuild (.reorder (start.sorted_perm _))
  | sortByFields fields =>
    simp only [perform, sortByFields]
    split
    · exact .unchanged
    · exact .rebuild (.reorder (start.sorted_perm _))
  | shuffle arrangement => exact .rebuild (.reorder (arrangement.perm _))
  | addFilter pattern mask => exact .rebuild (.extend rfl)
  | removeFilter handle =>
    simp only [perform, removeFilter]
    split
    · exact .rebuild (.narrow (List.eraseIdx_sublist _ _))
    · exact .unchanged
  | popFilter =>
    simp only [perform, popFilter?]
    cases start.filters.getLast? with
    | none => exact .unchanged
    | some filter => exact .rebuild (.narrow (List.dropLast_sublist _))
  | clearFilters =>
    simp only [perform, clearFilters]
    split
    · exact .unchanged
    · exact .rebuild (.narrow (List.nil_sublist _))
  | setReadOnly readOnly =>
    exact .stage (Stage.start.adjust start.forwardWalk start.backwardWalk readOnly start.regex
      start.caseSensitive start.redraw)
  | setRegex regex =>
    exact .stage (Stage.start.adjust start.forwardWalk start.backwardWalk start.readOnly regex
      start.caseSensitive start.redraw)
  | setCaseSensitive caseSensitive =>
    exact .stage (Stage.start.adjust start.forwardWalk start.backwardWalk start.readOnly start.regex
      caseSensitive start.redraw)
  | markRedraw =>
    exact .stage (Stage.start.adjust start.forwardWalk start.backwardWalk start.readOnly start.regex
      start.caseSensitive true)
  | clearRedraw =>
    exact .stage (Stage.start.adjust start.forwardWalk start.backwardWalk start.readOnly start.regex
      start.caseSensitive false)
  | setSelected index selected =>
    exact .stage (Marking.survives.setSelected .refl index selected).stage
  | select index action => exact .stage (Marking.survives.select .refl index action).stage
  | selectAll action => exact .stage (Marking.survives.selectEach .refl _ action).stage
  | selectMatching pattern mask first action =>
    exact .stage (Marking.survives.selectHits .refl _ mask action _ first 0).stage
  | restartWalks => exact .stage (Marking.survives.walks .fresh .fresh .refl).stage
  | nextSelected => exact .stage (Marking.survives.nextSelected .refl).stage
  | previousSelected => exact .stage (Marking.survives.previousSelected .refl).stage
  | popSelected => exact .stage (Marking.survives.popSelected .refl).stage
  | setScrollMode mode => exact .stage (.steer (.setMode mode) true)
  | setScrolloff scrolloff => exact .stage (.steer (.setScrolloff scrolloff) start.redraw)
  | setWrap wrap => exact .stage (.steer (.setWrap wrap) start.redraw)
  | setHeight height =>
    simp only [perform, setHeight]
    split
    · exact .unchanged
    · exact .stage (.steer (.setHeight height) true)
  | moveCursor delta => exact .stage (.steer (.move delta) true)
  | putCursor index => exact .stage (.steer (.put index) true)
  | scroll delta => exact .stage (.steer (.scroll delta) true)
  | search pattern backwards skipCurrent =>
    cases searched : start.search pattern backwards skipCurrent with
    | error failure =>
      simp only [perform, searched]
      exact .unchanged
    | ok result =>
      obtain ⟨list, found⟩ := result
      rw [show list = (start.putCursor found).1 from search_ok searched] at searched
      simp only [perform, searched]
      exact .stage (.steer (.put found) true)

end TrackBrowser.TrackList
