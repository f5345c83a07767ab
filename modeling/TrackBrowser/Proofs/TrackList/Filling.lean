/-
Module: TrackBrowser.Proofs.TrackList.Filling
Purpose: An empty list filled track by track is the list that loads all tracks at once.
-/
import TrackBrowser.Proofs.TrackList.FilterChange
import TrackBrowser.Proofs.TrackList.Viewport

/-!
Appending shifts the visible sequence, counts each track in and settles the cursor one track after
the other; loading counts all tracks first, and then counts those out that the filters hide.  Both
leave the tracks as the list keeps them, and the visible sequence and the totals follow from the
tracks.  The cursor of a list that shows nothing is at the top, and neither of the two moves it: the
first visible track, after however many hidden ones, puts it where it is already.
-/

namespace TrackBrowser.TrackList

/-- Appends tracks one after the other, up to the first that is refused. -/
def appendEach (list : TrackList) (tracks : List Track) : Except ListError TrackList :=
  tracks.foldlM (fun list track => (·.1) <$> list.append track) list

/-- The second list is the first one, which had no tracks, filled with some. -/
structure Filled (list : TrackList) (tracks : List Track) (after : TrackList) : Prop where
  filters : after.filters = list.filters
  readOnly : after.readOnly = list.readOnly
  tracks : after.tracks = tracks.map list.kept
  cursor : after.cursor = list.cursor
  coherent : after.Coherent
  accounted : after.Accounted True

namespace Filled

variable {list after other : TrackList} {tracks : List Track}

theorem passes (filled : list.Filled tracks after) : after.passes = list.passes := by
  funext track
  rw [TrackList.passes, filled.filters, ← TrackList.passes]

/-- The same tracks fill a list in one way only. -/
theorem unique (filled : list.Filled tracks after) (again : list.Filled tracks other) :
    SameTracks other after ∧ after.visible = other.visible := by
  have same : after.tracks = other.tracks := filled.tracks.trans again.tracks.symm
  refine ⟨again.accounted.counts.sameTracks filled.accounted.counts trivial same, ?_⟩
  rw [filled.coherent.visible_eq, again.coherent.visible_eq]
  exact passingIndices_congr (filled.filters.trans again.filters.symm) (congrArg _ same)

/-- The tracks of a filled list last as long as those that it is filled with. -/
theorem seconds_eq (filled : list.Filled tracks after) :
    after.tracks.map Track.seconds = tracks.map Track.seconds := by
  rw [filled.tracks, Track.map_seconds_map list.seconds_kept]

/-- The tracks that are there once one more is placed at the end. -/
theorem place_tracks (filled : list.Filled tracks after) (track : Track) :
    (after.place after.tracks.length track).tracks = (tracks ++ [track]).map list.kept := by
  have kept : after.kept track = list.kept track := by
    rw [TrackList.kept, TrackList.kept, filled.passes]
  rw [TrackList.place_tracks, List.insertIdx_length_self, kept, filled.tracks, List.map_append,
    List.map_singleton]

/-- One track more, at the end, goes on filling the list. -/
theorem place (filled : list.Filled tracks after) (top : list.cursor.AtTop) (track : Track)
    (bounded : ((tracks ++ [track]).map Track.seconds).sum < countLimit) :
    list.Filled (tracks ++ [track]) (after.place after.tracks.length track) where
  filters := filled.filters
  readOnly := filled.readOnly
  tracks := filled.place_tracks track
  cursor := by
    have there : after.cursor.AtTop := by rwa [filled.cursor]
    have settled : (after.place after.tracks.length track).cursor = after.cursor.reset :=
      settle_eq_reset fun _ => there
    rw [settled, there.reset_eq_self, filled.cursor]
  coherent := filled.coherent.place (Nat.le_refl _) track
  accounted := by
    refine filled.accounted.place (Nat.le_refl _) track fun _ => ?_
    rw [filled.place_tracks, Track.map_seconds_map list.seconds_kept]
    exact bounded

/-- Loading fills a list that shows nothing. -/
theorem load (list : TrackList) (empty : list.visible = []) (top : list.cursor.AtTop)
    {tracks : List Track} (bounded : (tracks.map Track.seconds).sum < countLimit) :
    list.Filled tracks (list.load tracks) where
  filters := rfl
  readOnly := rfl
  tracks := rfl
  cursor := by
    have settled : (list.load tracks).cursor = list.cursor.reset := by
      refine settle_eq_reset fun shown => ?_
      rw [empty] at shown
      cases shown
    rw [settled, top.reset_eq_self]
  coherent := Coherent.rebuild (list.loaded tracks) _
  accounted := by
    -- What was counted before is counted no more, so any list will do as the one before.
    have draft : Draft (.load tracks) {} (TrackList.loaded {} tracks) := .load tracks
    have counts : (TrackList.loaded {} tracks).Counts True tracks :=
      draft.counts .empty fun _ => bounded
    have same : (list.loaded tracks).Counts True tracks :=
      ⟨counts.totalSeconds, counts.selectedCount, counts.selectedSeconds⟩
    exact Accounted.rebuild same _

end Filled

variable {list : TrackList}

/-- One track more is appended to what the others have made. -/
theorem appendEach_concat {longer : TrackList} {tracks : List Track}
    (appended : list.appendEach tracks = .ok longer) (editable : longer.readOnly = false)
    (track : Track) :
    list.appendEach (tracks ++ [track]) = .ok (longer.place longer.tracks.length track) := by
  have last : longer.append track =
      .ok (longer.place longer.tracks.length track, longer.tracks.length) := by
    simp only [TrackList.append, editable, Bool.false_eq_true, if_false]
  rw [appendEach] at appended ⊢
  rw [List.foldlM_append, appended]
  change ((·.1) <$> longer.append track) >>= pure = _
  rw [last]
  rfl

/-- Appending fills a list that has no tracks, and if they are not too long together, it cuts no
total off on the way. -/
theorem appendEach_filled (start : list.Filled [] list) (editable : list.readOnly = false)
    (top : list.cursor.AtTop) (tracks : List Track)
    (bounded : (tracks.map Track.seconds).sum < countLimit) :
    ∃ longer, list.appendEach tracks = .ok longer ∧ list.Filled tracks longer ∧
      (tracks.map Operation.append).foldlM (Checked.perform exactSums) list = some longer := by
  induction tracks using List.reverseRecOn with
  | nil => exact ⟨list, rfl, start, rfl⟩
  | append_singleton tracks track ih =>
    have shorter : (tracks.map Track.seconds).sum < countLimit := by
      rw [List.map_append, List.sum_append] at bounded
      exact Nat.lt_of_le_of_lt (Nat.le_add_right _ _) bounded
    obtain ⟨longer, appended, filled, checked⟩ := ih shorter
    have still : longer.readOnly = false := filled.readOnly.trans editable
    have next := filled.place top track bounded
    have performed : longer.perform (.append track) =
        longer.place longer.tracks.length track := by
      simp only [perform, TrackList.append, still, Bool.false_eq_true, if_false, afterCall]
    have admits := filled.accounted.admits_exactSums filled.coherent
      (by rwa [filled.seconds_eq]) (by rwa [performed, next.seconds_eq])
    refine ⟨_, appendEach_concat appended still track, next, ?_⟩
    rw [List.map_append, List.foldlM_append, checked, ← performed, ← admits.perform_eq]
    simp

/-- After every run that leaves a list without tracks that may be edited, appending tracks one by
one and loading them all at once come to the same tracks with the same selection, the same visible
sequence, the same totals, the same cursor and the same viewport, as long as the durations of the
tracks fit into 64 bits together.  Neither of the two is refused or cuts a total off. -/
theorem appendEach_load (operations : List Operation) (tracks : List Track)
    (empty : (run operations).tracks = []) (editable : (run operations).readOnly = false)
    (bounded : (tracks.map Track.seconds).sum < countLimit) :
    let list := run operations
    let whole := list.load tracks
    ∃ longer, list.appendEach tracks = .ok longer ∧
      longer.tracks = whole.tracks ∧ longer.visible = whole.visible ∧
      longer.totalSeconds = whole.totalSeconds ∧ longer.selectedCount = whole.selectedCount ∧
      longer.selectedSeconds = whole.selectedSeconds ∧
      longer.cursor = whole.cursor ∧ longer.offset = whole.offset ∧
      (tracks.map Operation.append).foldlM (Checked.perform exactSums) list = some longer ∧
      Checked.perform exactSums list (.load tracks) = some whole := by
  intro list whole
  have coherent : list.Coherent := Coherent.run operations
  -- A list without tracks has counted none, whatever it has counted before.
  have accounted : list.Accounted True :=
    (Accounted.run operations).of_tracks_nil empty
  have hidden : list.visible = [] := by
    rw [coherent.visible_eq, passingIndices, empty]
    rfl
  have top : list.cursor.AtTop := atTop_run operations hidden
  have start : list.Filled [] list := ⟨rfl, rfl, empty, rfl, coherent, accounted⟩
  have loads : list.Filled tracks whole := Filled.load list hidden top bounded
  obtain ⟨longer, appended, filled, checked⟩ := appendEach_filled start editable top tracks bounded
  obtain ⟨same, visible⟩ := filled.unique loads
  have cursor : longer.cursor = whole.cursor := filled.cursor.trans loads.cursor.symm
  have offset : longer.offset = whole.offset := by
    rw [TrackList.offset, TrackList.offset, TrackList.size, TrackList.size, cursor, visible]
  have before : (list.tracks.map Track.seconds).sum < countLimit := by
    rw [empty]
    exact Nat.two_pow_pos 64
  have after : ((list.perform (.load tracks)).tracks.map Track.seconds).sum < countLimit :=
    (congrArg List.sum loads.seconds_eq).trans_lt bounded
  have admits := accounted.admits_exactSums coherent before after
  exact ⟨longer, appended, same.tracks, visible, same.totalSeconds, same.selectedCount,
    same.selectedSeconds, cursor, offset, checked, admits.perform_eq⟩

/-- A list without tracks that shows two rows of what one filter lets through. -/
def filteredStart : List Operation :=
  [.setHeight 2, .setScrolloff 1, .addFilter "ada" .all]

/-- Three tracks, of which the filter hides the first, and two are selected. -/
def mixedTracks : List Track :=
  [{ file := "first.ogg", artist := "Bo", time := some 2, selected := true },
    { file := "second.ogg", artist := "Ada", time := some 3, selected := true },
    { file := "third.ogg", artist := "Ada", time := some 5 }]

/-- Appended one by one, the two that pass are visible and the hidden one is not selected. -/
theorem appendEach_load_mixedTracks :
    (run filteredStart).tracks = [] ∧ (run filteredStart).readOnly = false ∧
      (mixedTracks.map Track.seconds).sum < countLimit ∧
      ∃ longer, (run filteredStart).appendEach mixedTracks = .ok longer ∧
        longer.visible = [1, 2] ∧ longer.totalSeconds = 10 ∧ longer.selectedCount = 1 ∧
          longer.selectedSeconds = 3 ∧ longer.cursor.index = 0 ∧ longer.offset = 0 := by
  have empty : (run filteredStart).tracks = [] := by decide +kernel
  have editable : (run filteredStart).readOnly = false := by decide +kernel
  have bounded : (mixedTracks.map Track.seconds).sum < countLimit := by decide
  obtain ⟨longer, appended, _, visible, seconds, count, selected, cursor, offset, _, _⟩ :=
    appendEach_load filteredStart mixedTracks empty editable bounded
  refine ⟨empty, editable, bounded, longer, appended, ?_, ?_, ?_, ?_, ?_, ?_⟩
  · rw [visible]
    decide +kernel
  · rw [seconds]
    decide +kernel
  · rw [count]
    decide +kernel
  · rw [selected]
    decide +kernel
  · rw [cursor]
    decide +kernel
  · rw [offset]
    decide +kernel

end TrackBrowser.TrackList
