/-
Module: TrackBrowser.Proofs.Browser.SavePlaylist
Purpose: Saving the active view as a playlist makes a faithful copy of it.
-/
import TrackBrowser.Proofs.Browser.LibraryOrder
import TrackBrowser.Proofs.Browser.Reachable
import TrackBrowser.Proofs.TrackList.Totals

/-!
A new playlist without filters shows all the tracks that it is given, so copying what a list shows
makes the two show the same.  `CopiedTo` says what a copy takes over and what it does not; it is all
about the tracks and their totals, so that making the copy scroll as wanted, when its view is added,
does not touch it.
-/

namespace TrackBrowser

namespace TrackList

/-- The second list is an editable copy of what the first one shows: it has and shows the detached
copies of the visible tracks in their order, no filter and no selection.  It lasts as long as the
visible tracks, in 64 bits, which is no longer than all tracks where the source counts these
rightly. -/
structure CopiedTo (source copy : TrackList) : Prop where
  editable : copy.readOnly = false
  unfiltered : copy.filters = []
  tracks : copy.tracks = source.visibleTracks.map Track.detached
  visibleTracks : copy.visibleTracks = source.visibleTracks.map Track.detached
  size : copy.size = source.visibleTracks.length
  unselected : ∀ track ∈ copy.tracks, track.selected = false
  selectedCount : copy.selectedCount = 0
  selectedSeconds : copy.selectedSeconds = 0
  wrapped : copy.totalSeconds = (source.visibleTracks.map Track.seconds).sum % countLimit
  totalSeconds : (source.visibleTracks.map Track.seconds).sum < countLimit →
    copy.totalSeconds = (source.visibleTracks.map Track.seconds).sum
  within : source.totalSeconds = (source.tracks.map Track.seconds).sum →
    copy.totalSeconds ≤ source.totalSeconds

variable {source : TrackList}

/-- The visible tracks last no longer than all tracks. -/
theorem Coherent.visibleSeconds_le (coherent : source.Coherent) :
    (source.visibleTracks.map Track.seconds).sum ≤ (source.tracks.map Track.seconds).sum := by
  rw [coherent.visibleTracks_eq]
  exact (List.filter_sublist.map _).sum_le_sum fun _ _ => Nat.zero_le _

/-- A new list that copies from another one is a copy of it. -/
theorem copiedTo_copyFrom (coherent : source.Coherent) (defaults : ListDefaults) :
    source.CopiedTo (defaults.newList.copyFrom source) := by
  let copies := source.visibleTracks.map Track.detached
  obtain ⟨whole, tracks⟩ : (defaults.newList.copyFrom source).Whole ∧
      (defaults.newList.copyFrom source).tracks = copies :=
    whole_rebuild (defaults.newList.loaded copies) rfl rfl true
  have unselected : ∀ track ∈ copies, track.selected = false := by
    intro track member
    obtain ⟨original, _, rfl⟩ := List.mem_map.mp member
    rfl
  have none_selected : copies.filter (·.selected) = [] := by
    rw [List.filter_eq_nil_iff]
    intro track member
    simp [unselected track member]
  have same : ∀ track : Track, track.detached.seconds = track.seconds := fun _ => rfl
  have seconds : copies.map Track.seconds = source.visibleTracks.map Track.seconds :=
    Track.map_seconds_map same _
  have lasts : (defaults.newList.copyFrom source).totalSeconds =
      (source.visibleTracks.map Track.seconds).sum % countLimit := by
    rw [← seconds, ← sumWrapping_eq]
    rfl
  have counts : (defaults.newList.copyFrom source).Counts False copies := by
    have loaded : (defaults.newList.loaded copies).Counts False copies :=
      ⟨.of_counts False.elim, rfl, .of_counts False.elim⟩
    rw [← tracks]
    exact (Accounted.rebuild loaded true).counts
  obtain ⟨_, selectedCount, selectedSeconds⟩ := counts
  rw [none_selected] at selectedCount selectedSeconds
  refine ⟨rfl, whole.unfiltered, tracks, whole.visibleTracks.trans tracks, ?_, ?_, selectedCount,
    selectedSeconds.eq_zero, lasts, ?_, ?_⟩
  · rw [size, whole.visible, List.length_range, tracks, List.length_map]
  · rwa [tracks]
  · intro fits
    rw [lasts, Nat.mod_eq_of_lt fits]
  · intro counted
    rw [lasts, counted]
    exact (Nat.mod_le _ _).trans coherent.visibleSeconds_le

end TrackList

/-- Making a view of a copy scroll as wanted makes it a view of a copy. -/
theorem ListDefaults.apply_copiedTo (defaults : ListDefaults) {source copy : TrackList}
    (copied : source.CopiedTo copy) (kind : ViewKind) (title : String) :
    ∃ playlist, defaults.apply (.ofTracks kind title copy) = .ofTracks kind title playlist ∧
      source.CopiedTo playlist :=
  ⟨((copy.setScrollMode defaults.scrollMode).setScrolloff defaults.scrolloff).setWrap defaults.wrap,
    rfl, ⟨copied.editable, copied.unfiltered, copied.tracks, copied.visibleTracks,
      copied.size, copied.unselected, copied.selectedCount, copied.selectedSeconds,
      copied.wrapped, copied.totalSeconds, copied.within⟩⟩

namespace View

/-- Only a list of windows without tracks is brought up to date. -/
theorem refreshed_eq_self {view : View} (kept : view.list? ≠ none ∨ view.kind ≠ .windows)
    (rows : List String) : view.refreshed rows = view := by
  obtain ⟨kind, title, content⟩ := view
  unfold refreshed
  split
  · rename_i windows
    cases content with
    | tracks list => rfl
    | rows old cursor => exact absurd windows (kept.resolve_left (not_not_intro rfl))
  · rfl

end View

/-- The first list of windows is where views are added. -/
theorem Browser.Sound.findView?_windows {browser : Browser} (sound : browser.Sound) :
    browser.findView? .windows = some browser.addPlace := by
  obtain ⟨view, member, kind⟩ := sound.windows
  rw [addPlace]
  cases found : browser.findView? .windows with
  | some place => rfl
  | none =>
    have other := List.findIdx?_eq_none_iff.mp found view member
    rw [kind] at other
    cases other

/-- Saving adds a view of a copy, and says so. -/
theorem Browser.saveAsPlaylist_eq (browser : Browser) {source : TrackList}
    (active : browser.activeList? = some source) :
    let title := "Playlist " ++ Text.decimal browser.views.length
    let copy := browser.defaults.newList.copyFrom source
    browser.saveAsPlaylist = (browser.addView (.ofTracks .playlist title copy)).1.setStatus
      ("saved " ++ Text.decimal copy.size ++ " records as " ++ title) := by
  rw [saveAsPlaylist, active]

namespace Session

variable {session : Session} {source : TrackList}

/-- A read-only library that shows the first of its two tracks, which is selected, behind the list
of windows. -/
def narrowedLibrary : Session where
  browser := ((Browser.ofViews [.ofRows .windows "Windows" [],
    .ofTracks .library "Library" (TrackList.run
      [.append { id := some 7, file := "a.ogg", time := some 5, selected := true },
        .append { id := some 8, file := "b.ogg", time := some 6 }, .addFilter "a" .all,
        .setReadOnly true])]).activate 1).1

theorem narrowedLibrary_reached : narrowedLibrary.Reached := by
  refine Reached.call (Reached.start (fun view member => ?_) false) (.activate 1)
  rcases List.mem_cons.mp member with rfl | second
  · exact .ofRows _ _ _
  · cases List.mem_singleton.mp second
    exact .ofTracks _ _ _

end Session

end TrackBrowser
