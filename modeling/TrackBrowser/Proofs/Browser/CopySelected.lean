/-
Module: TrackBrowser.Proofs.Browser.CopySelected
Purpose: Which tracks are copied to the playlist, and what becomes of the list they come from.
-/
import TrackBrowser.Proofs.Browser.OtherViews
import TrackBrowser.Proofs.Browser.SelectSame
import TrackBrowser.Proofs.TrackList.Searching

/-!
The command drains the selection of the active list before it looks for the playlist, and adds one
if there is none.  Draining gives the selected tracks in visible order and leaves them unselected;
`Delivered` says what becomes of the views when they are appended to the playlist.  The playlist may
be the active list itself.  Then the copies are behind the tracks from which the selection was
taken.
-/

namespace TrackBrowser

namespace TrackList

variable {list later : TrackList}

/-! ### Draining the selection -/

/-- The tracks that a command on the selection takes: the selected ones in visible order, or else
the one under the cursor. -/
def picked (list : TrackList) : List Track :=
  let selected := list.visibleTracks.filter Track.selected
  if selected = [] then list.cursorTrack?.toList else selected

/-- They are those at the chosen indices. -/
theorem filterMap_get?_chosen (list : TrackList) :
    list.chosen.filterMap list.get? = list.picked := by
  have marked : list.selectedIndices.filterMap list.get? =
      list.visibleTracks.filter Track.selected := by
    rw [selectedIndices, List.filterMap_filter, visibleTracks_eq_filterMap, List.filter_filterMap]
    congr 1
    funext index
    rw [isSelected]
    cases list.get? index <;> rfl
  have nothing : list.selectedIndices = [] ↔ list.visibleTracks.filter Track.selected = [] := by
    rw [← marked]
    constructor
    · intro none_selected
      rw [none_selected, List.filterMap_nil]
    · intro none_given
      refine List.eq_nil_iff_forall_not_mem.mpr fun index member => ?_
      have absent := List.filterMap_eq_nil_iff.mp none_given index member
      have held := mem_selectedIndices.mp member
      rw [isSelected, absent] at held
      cases held
  simp only [chosen, picked, nothing]
  split
  · rw [cursorTrack?]
    cases list.cursorIndex? with
    | none => rfl
    | some index => cases found : list.get? index <;> simp [found]
  · exact marked

/-- No row, no track. -/
theorem picked_of_empty (empty : list.size = 0) : list.picked = [] := by
  have nowhere := cursorIndex?_eq_none.mpr empty
  rw [picked, visibleTracks_eq_filterMap, empty, cursorTrack?, nowhere]
  rfl

/-- The second list is the first one without its selection; at most its walks have moved and a
redraw was asked for. -/
structure Drained (before after : TrackList) : Prop where
  unmarked : after.unmarked = before.unmarked
  unselected : ∀ track ∈ after.tracks, track.selected = false
  selectedCount : after.selectedCount = 0
  selectedSeconds : after.selectedSeconds = 0

namespace Drained

variable (drained : list.Drained later)

include drained

theorem tracks : later.tracks = list.tracks.map Track.deselected := by
  have held := congrArg TrackList.tracks drained.unmarked
  have same : ∀ track ∈ later.tracks, track = track.deselected := by
    intro track member
    rw [Track.deselected, ← drained.unselected track member]
  calc later.tracks = later.tracks.map id := (List.map_id _).symm
    _ = later.tracks.map Track.deselected := List.map_congr_left same
    _ = list.tracks.map Track.deselected := held

theorem filters : later.filters = list.filters := by
  have held := congrArg TrackList.filters drained.unmarked
  exact held

theorem cursor : later.cursor = list.cursor := by
  have held := congrArg TrackList.cursor drained.unmarked
  exact held

theorem size : later.size = list.size := by
  have held := congrArg TrackList.size drained.unmarked
  exact held

end Drained

/-- Draining from a restart on gives the picked tracks, but for their selection, and leaves the list
without its selection. -/
theorem drained_restartWalks (accounted : list.Accounted False) (coherent : list.Coherent) :
    let result := Browser.drainSelection (list.size + 1) list.restartWalks
    list.Drained result.1 ∧ result.2.map Track.detached = list.picked.map Track.detached := by
  intro result
  have walked := list.restartWalks_walked
  have again := walked.coherent coherent
  obtain ⟨start, few⟩ := ahead_restartWalks accounted coherent
  obtain ⟨given, rest⟩ := Browser.drainSelection_eq again (list.size + 1)
  rw [start, List.take_of_length_le (Nat.le_succ_of_le few)] at given
  rw [start, List.drop_of_length_le (Nat.le_succ_of_le few)] at rest
  have same : list.restartWalks.unmarked = list.unmarked := rfl
  have unmarked : result.1.unmarked = list.unmarked :=
    Browser.drainSelection_keeps (fun later => later.unmarked = list.unmarked)
      list.survivesMarking_unmarked.popSelected same _
  have draining : result.1.Draining :=
    Browser.drainSelection_keeps Draining (fun draining => draining.popSelected)
      (.of_fresh (walked.accounted accounted) again rfl) _
  obtain ⟨count, seconds, unselected⟩ := draining.cleared rest
  have taken : result.2.map Track.deselected = list.picked.map Track.deselected := by
    rw [← filterMap_get?_chosen, List.map_filterMap]
    exact given
  refine ⟨⟨unmarked, unselected, count, seconds⟩, ?_⟩
  -- A detached copy does not tell whether the track was selected.
  have copies : ∀ tracks : List Track, (tracks.map Track.deselected).map Track.detached =
      tracks.map Track.detached := fun _ => List.map_map
  rw [← copies, taken, copies]

/-! ### Appending below the cursor -/

/-- Placing a track at the end leaves the cursor on its row. -/
theorem place_end_cursor (inside : list.cursor.index < list.size) (track : Track) :
    (list.place list.tracks.length track).cursor.index = list.cursor.index ∧
      list.size ≤ (list.place list.tracks.length track).size := by
  have grown : list.size ≤ (list.place list.tracks.length track).size := by
    have parts := congrArg List.length
      (List.takeWhile_append_dropWhile (p := (· < list.tracks.length)) (l := list.visible))
    rw [List.length_append] at parts
    rw [size, size, place_visible, List.length_append, List.length_append, List.length_map]
    omega
  refine ⟨?_, grown⟩
  have shown : list.visible.isEmpty = false := by
    rw [List.isEmpty_eq_false_iff, ← List.length_pos_iff]
    exact Nat.zero_lt_of_lt inside
  have settled : (list.place list.tracks.length track).cursor.index =
      if list.visible.isEmpty then 0
      else min list.cursor.index ((list.place list.tracks.length track).size - 1) :=
    settle_index ((Nat.zero_lt_of_lt inside).trans_le grown)
  rw [settled, shown, if_neg Bool.false_ne_true, Nat.min_eq_left]
  exact Nat.le_sub_one_of_lt (inside.trans_le grown)

end TrackList

namespace Browser

open TrackList (Appended Drained)

variable {browser : Browser} {list : TrackList}

/-- Appending tracks leaves the cursor on its row. -/
theorem appendAll_cursor (editable : list.readOnly = false)
    (inside : list.cursor.index < list.size) (tracks : List Track) :
    (appendAll list tracks).1.cursor.index = list.cursor.index ∧
      list.size ≤ (appendAll list tracks).1.size := by
  induction tracks using List.reverseRecOn with
  | nil => exact ⟨rfl, le_rfl⟩
  | append_singleton tracks track ih =>
    obtain ⟨stays, grown⟩ := ih
    rw [appendAll_concat editable]
    obtain ⟨still, more⟩ :=
      TrackList.place_end_cursor (stays.trans_lt (inside.trans_le grown)) track
    exact ⟨still.trans stays, grown.trans more⟩

/-- So the picked tracks of a list can be appended to it without moving its cursor.  An empty list
has none. -/
theorem cursorIndex?_appended {source longer : TrackList} {copied : List Track}
    (settled : list.cursor.Settled list.size) (drained : list.Drained source)
    (appended : source.Appended longer copied)
    (copies : copied.map Track.detached = list.picked.map Track.detached) :
    longer.cursorIndex? = list.cursorIndex? := by
  have result := appended.appended
  rw [copies] at result
  rcases Nat.eq_zero_or_pos list.size with empty | rows
  · rw [TrackList.picked_of_empty empty] at result
    have still : longer = source := result
    rw [still, TrackList.cursorIndex?_eq_none.mpr empty,
      TrackList.cursorIndex?_eq_none.mpr (drained.size.trans empty)]
  · have inside := settled.inside rows
    have within : source.cursor.index < source.size := by rwa [drained.cursor, drained.size]
    obtain ⟨stays, grown⟩ := appendAll_cursor appended.editable within
      (list.picked.map Track.detached)
    rw [← result] at stays grown
    rw [TrackList.cursorIndex?_of_inside (stays.trans_lt (within.trans_le grown)), stays,
      drained.cursor, TrackList.cursorIndex?_of_inside inside]

/-! ### Delivering to the playlist -/

/-- The list of the first playlist, if there is one. -/
def playlist? (browser : Browser) : Option TrackList :=
  (browser.findView? .playlist).bind fun index => browser.views[index]?.bind View.list?

/-- The list is that of the first playlist, or has no tracks if there is none yet. -/
def Target (browser : Browser) (list : TrackList) : Prop :=
  browser.playlist? = some list ∨ browser.playlist? = none ∧ list.tracks = []

theorem Target.tracks_eq (target : browser.Target list) :
    list.tracks = (browser.playlist?.map TrackList.tracks).getD [] := by
  obtain there | ⟨nothing, empty⟩ := target
  · rw [there]
    rfl
  · rw [nothing, empty]
    rfl

/-- Where the first playlist is, or is added if there is none. -/
def playlistPlace (browser : Browser) : Nat :=
  (browser.findView? .playlist).getD browser.addPlace

/-- The playlist to which tracks are delivered is there or was added, and all other lists are found
where views are after such an addition. -/
structure Ensured (before after : Browser) : Prop where
  playlist : before.refuses = false → ∃ view list, after.views[before.playlistPlace]? = some view ∧
    view.kind = .playlist ∧ view.list? = some list ∧ list.readOnly = false ∧ before.Target list
  others : ∀ index, after.views[before.placeAfter before.missingPlaylists index]?.bind View.list? =
    before.views[index]?.bind View.list?
  away : ∀ {index}, before.findView? .playlist ≠ some index →
    before.placeAfter before.missingPlaylists index ≠ before.playlistPlace

theorem ensurePlaylist_ensured (browser : Browser) :
    browser.ensurePlaylist.2 = browser.playlistPlace ∧
      browser.Ensured browser.ensurePlaylist.1 := by
  cases found : browser.findView? .playlist with
  | some target =>
    have place : browser.playlistPlace = target := by
      rw [playlistPlace, found, Option.getD_some]
    obtain ⟨ensured, missing⟩ := ensurePlaylist_of_some found
    rw [ensured]
    refine ⟨place.symm, ⟨?_, ?_, ?_⟩⟩
    · intro accepted
      obtain ⟨list, held, editable⟩ := ensurePlaylist_of_accepts accepted
      rw [ensured] at held
      obtain ⟨view, there, tracks⟩ := Option.bind_eq_some_iff.mp held
      rw [place]
      refine ⟨view, list, there, kind_of_findView? found there, tracks, editable, .inl ?_⟩
      rw [playlist?, found, Option.bind_some, held]
    · intro index
      rw [missing, placeAfter_zero]
    · intro index other
      rw [missing, placeAfter_zero, place]
      rintro rfl
      exact other found
  | none =>
    have place : browser.playlistPlace = browser.addPlace := by
      rw [playlistPlace, found, Option.getD_none]
    obtain ⟨ensured, missing⟩ := ensurePlaylist_of_none found
    rw [ensured]
    refine ⟨place.symm, ⟨?_, ?_, ?_⟩⟩
    · intro _
      rw [place, addView_getElem?_addPlace]
      refine ⟨_, _, rfl, ?_, rfl, rfl, .inr ⟨?_, rfl⟩⟩
      · rw [View.kind_refreshed]
        exact (browser.defaults.apply_edited _).kind_eq
      · rw [playlist?, found, Option.bind_none]
    · intro index
      rw [missing, addView_getElem?_placeAfter]
      cases browser.views[index]? with
      | none => rfl
      | some view => exact View.list?_refreshed view _
    · intro index _
      rw [missing, place]
      exact browser.placeAfter_one_ne index

/-- Detached copies of tracks were appended to the playlist, and all other lists are as before. -/
structure Delivered (before : Browser) (copied : List Track) (after : Browser) : Prop where
  playlist : ∃ view list later, after.views[before.playlistPlace]? = some view ∧
    view.kind = .playlist ∧ view.list? = some later ∧ list.Appended later copied ∧
      before.Target list
  others : ∀ {index}, before.findView? .playlist ≠ some index →
    after.views[before.placeAfter before.missingPlaylists index]?.bind View.list? =
      before.views[index]?.bind View.list?
  status : after.status = some ("added " ++ Text.decimal copied.length ++ " to playlist")

theorem deliver_delivered (accepted : browser.refuses = false) (copied : List Track) :
    browser.Delivered copied (browser.deliver copied) := by
  obtain ⟨place, grown⟩ := browser.ensurePlaylist_ensured
  rcases ensured : browser.ensurePlaylist with ⟨extended, index⟩
  rw [ensured] at place grown
  obtain rfl : index = browser.playlistPlace := place
  replace grown : browser.Ensured extended := grown
  obtain ⟨view, list, there, kind, tracks, editable, target⟩ := grown.playlist accepted
  have held : extended.views[browser.playlistPlace]?.bind View.list? = some list := by
    rw [there, Option.bind_some, tracks]
  have delivered := browser.deliver_of_some ensured held copied
  obtain ⟨longer, appended, _⟩ := appendAll_of_editable editable (copied.map Track.detached)
  have views : (browser.deliver copied).views = extended.views.modify browser.playlistPlace
      fun view => view.modifyList fun _ => longer := by
    rw [delivered, report_views, appended]
  have copies := appendAll_detached editable copied
  rw [appended] at copies
  constructor
  · refine ⟨view.modifyList fun _ => longer, list, longer, ?_, ?_, ?_, copies, target⟩
    · rw [views, List.getElem?_modify_eq, there]
      rfl
    · rw [View.kind_modifyList, kind]
    · rw [View.list?_modifyList, tracks, Option.map_some]
  · intro index other
    rw [views, List.getElem?_modify_ne _ _ (grown.away other).symm, grown.others]
  · rw [delivered, appended, List.length_map]
    rfl

/-! ### Copying the selection -/

/-- Edits leave the playlist where it is, or where it is added. -/
theorem Reworks.playlistPlace_eq {before after : Browser} (reworks : before.Reworks after) :
    after.playlistPlace = before.playlistPlace := by
  rw [playlistPlace, playlistPlace, reworks.findView?_eq, reworks.addPlace_eq]

/-- A playlist that is there stays at its index. -/
theorem placeAfter_playlist {index : Nat} (found : browser.findView? .playlist = some index) :
    browser.placeAfter browser.missingPlaylists index = browser.playlistPlace := by
  rw [(ensurePlaylist_of_some found).2, placeAfter_zero, playlistPlace, found, Option.getD_some]

/-- In front of it no view is a playlist, and none is moved when one is added. -/
theorem of_lt_playlistPlace {index : Nat} (below : index < browser.playlistPlace) :
    browser.placeAfter browser.missingPlaylists index = index ∧
      ∃ view, browser.views[index]? = some view ∧ view.kind ≠ .playlist := by
  unfold playlistPlace at below
  cases found : browser.findView? .playlist with
  | none =>
    rw [found, Option.getD_none] at below
    have inside := below.trans_le browser.addPlace_le
    have other := List.findIdx?_eq_none_iff.mp found _ (List.getElem_mem inside)
    refine ⟨?_, _, List.getElem?_eq_getElem inside, by simpa using other⟩
    rw [(ensurePlaylist_of_none found).2, placeAfter, if_pos below]
  | some first =>
    rw [found, Option.getD_some] at below
    obtain ⟨within, _, others⟩ := List.findIdx?_eq_some_iff_getElem.mp found
    have inside := below.trans within
    refine ⟨?_, _, List.getElem?_eq_getElem inside, by simpa using others index below⟩
    rw [(ensurePlaylist_of_some found).2, placeAfter_zero]

/-- Once the playlist that is missing was added, the first one is there. -/
theorem Grown.findView?_playlist {after : Browser} {view : View}
    (grown : Grown browser.missingPlaylists browser after)
    (there : after.views[browser.playlistPlace]? = some view) (kind : view.kind = .playlist) :
    after.findView? .playlist = some browser.playlistPlace := by
  obtain ⟨inside, rfl⟩ := List.getElem?_eq_some_iff.mp there
  refine List.findIdx?_eq_some_iff_getElem.mpr ⟨inside, ?_, fun index below => ?_⟩
  · rw [kind]
    rfl
  · obtain ⟨still, before, held, other⟩ := of_lt_playlistPlace below
    obtain ⟨later, found, continues⟩ := grown.views held
    rw [still] at found
    obtain ⟨_, rfl⟩ := List.getElem?_eq_some_iff.mp found
    simpa [continues.kind] using other

/-- Once the active list was replaced, tracks go to the new one if that is the playlist, and to the
same list as before if not. -/
theorem target_of_setActiveList {view : View} {source later : TrackList}
    (there : browser.views[browser.active]? = some view) (tracks : view.list? = some list)
    (reworks : browser.Reworks (browser.setActiveList source))
    (target : (browser.setActiveList source).Target later) :
    (browser.findView? .playlist = some browser.active → later = source) ∧
      (browser.findView? .playlist ≠ some browser.active → browser.Target later) := by
  rw [Target, playlist?, reworks.findView?_eq] at target
  constructor
  · intro own
    rw [own, Option.bind_some, getElem?_setActiveList there, Option.bind_some,
      View.list?_modifyList, tracks, Option.map_some] at target
    obtain same | ⟨nothing, _⟩ := target
    · exact (Option.some_inj.mp same).symm
    · cases nothing
  · intro other
    rw [Target, playlist?]
    cases found : browser.findView? .playlist with
    | none =>
      rw [found] at target
      exact target
    | some index =>
      have away : browser.active ≠ index := by
        rintro rfl
        exact other found
      rw [found, Option.bind_some, setActiveList, modifyActive,
        List.getElem?_modify_ne _ _ away] at target
      exact target

/-- Copying drains the active list and delivers its picked tracks. -/
theorem addToPlaylist_delivered (made : browser.Made) (active : browser.activeList? = some list)
    (accepted : browser.refuses = false) :
    ∃ source copied, list.Drained source ∧
      copied.map Track.detached = list.picked.map Track.detached ∧
      browser.Edits browser.active (browser.setActiveList source) ∧
      (browser.setActiveList source).Delivered copied browser.addToPlaylist := by
  obtain ⟨view, there, tracks, coherent, accounted⟩ := made.activeList active
  obtain ⟨drained, copies⟩ := TrackList.drained_restartWalks accounted coherent
  have locks := refuses_setActiveList there tracks
    (drainSelection_readOnly (list.size + 1) list.restartWalks)
  refine ⟨_, _, drained, copies, drained_edits active, ?_⟩
  rw [addToPlaylist_eq active]
  exact deliver_delivered (locks.trans accepted) _

/-- A playlist of four tracks with a filter that hides the second, and with the first and the last
selected. -/
def pickedPlaylist : Browser :=
  ofViews [View.ofTracks .playlist "Playlist" (TrackList.run TrackList.pickedRun)]

end Browser

end TrackBrowser
