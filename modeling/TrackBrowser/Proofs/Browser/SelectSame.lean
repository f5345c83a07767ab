/-
Module: TrackBrowser.Proofs.Browser.SelectSame
Purpose: Which tracks are selected when those with the same value as the cursor are asked for.
-/
import TrackBrowser.Proofs.Browser.FailedCommand
import TrackBrowser.Proofs.TrackList.Selecting

/-!
The value under the cursor is used as an exact pattern.  That selects the tracks with the same
value, unless the value is empty: an empty pattern passes every track.
-/

namespace TrackBrowser

/-- Whether two tracks have the same value of a field, without regard to case. -/
def Track.sameValue (field : Field) (track other : Track) : Bool :=
  foldText (other.text field) == foldText (track.text field)

namespace Browser

variable {browser : Browser} {list : TrackList}

theorem getElem?_setActiveList {view : View} (there : browser.views[browser.active]? = some view)
    (later : TrackList) :
    (browser.setActiveList later).views[browser.active]? =
      some (view.modifyList fun _ => later) := by
  simp [setActiveList, modifyActive, there]

/-- Replacing the active list makes the new one the active list. -/
theorem activeList?_setActiveList {view : View} (there : browser.views[browser.active]? = some view)
    (tracks : view.list? = some list) (later : TrackList) :
    (browser.setActiveList later).activeList? = some later := by
  rw [activeList?_eq _ (getElem?_setActiveList there later), View.list?_modifyList, tracks,
    Option.map_some]

/-- Selecting the same tracks works on the active list, with the value under the cursor. -/
theorem selectSame_eq (active : browser.activeList? = some list) {track : Track}
    (onCursor : list.cursorTrack? = some track) (field : Field) :
    browser.selectSame field =
      let result := list.selectMatching (track.text field) field.mask 0 .select
      (browser.setActiveList result.1).setStatus
        ("selected " ++ Text.decimal result.2 ++ " more by " ++ field.name) := by
  simp only [selectSame, active, onCursor, report]

/-- On an active list that is not empty, selecting the same tracks adds to the selection the visible
tracks that have the value under the cursor, or all visible tracks when that value is empty.  The
message counts the changed selections, and nothing but marks of this list changes.  So exactly the
tracks with the same value are added when that value is not empty, or when all visible tracks with
another value are selected already. -/
theorem selectSame_tracks (made : browser.Made) (active : browser.activeList? = some list)
    (nonempty : 0 < list.size) (field : Field) :
    ∃ track later, list.cursorTrack? = some track ∧
      (browser.selectSame field).activeList? = some later ∧
      later.tracks = list.selecting (fun other =>
        (track.text field).isEmpty || track.sameValue field other) ∧
      (browser.selectSame field).status = some
        ("selected " ++ Text.decimal (list.changedFlags later) ++ " more by " ++ field.name) ∧
      later.unmarked = list.unmarked ∧
      (∀ index, index ≠ browser.active →
        (browser.selectSame field).views[index]? = browser.views[index]?) ∧
      (later.tracks = list.selecting (track.sameValue field) ↔
        track.text field ≠ "" ∨
          ∀ canonical ∈ list.visible, ∀ other, list.tracks[canonical]? = some other →
            other.selected = true ∨ track.sameValue field other = true) := by
  obtain ⟨view, there, tracks, coherent, _⟩ := made.activeList active
  obtain ⟨cursor, track, position, _, found⟩ := coherent.exists_onCursor nonempty
  have onCursor : list.cursorTrack? = some track := by
    rw [TrackList.cursorTrack?, position, Option.bind_some, found]
  obtain ⟨selected, counted, marks⟩ :=
    TrackList.selectMatching_select coherent field (track.text field)
  have selected : (list.selectMatching (track.text field) field.mask 0 .select).1.tracks =
      list.selecting fun other => (track.text field).isEmpty || track.sameValue field other :=
    selected
  have edits := browser.selectSame_edits field
  rw [selectSame_eq active onCursor] at edits ⊢
  refine ⟨track, _, onCursor, activeList?_setActiveList there tracks _, selected, ?_, marks,
    fun index away => edits.elsewhere away, ?_⟩
  · rw [← counted]
    rfl
  · rw [selected, TrackList.selecting_eq_iff]
    cases blank : (track.text field).isEmpty with
    | false =>
      have valued : track.text field ≠ "" := by
        intro empty
        simp [empty] at blank
      simp [valued, Track.sameValue]
    | true =>
      have empty : ¬ track.text field ≠ "" := not_not.mpr (String.isEmpty_iff.mp blank)
      have flipped : ∀ other, (true || track.sameValue field other) = track.sameValue field other ↔
          track.sameValue field other = true := by
        intro other
        rw [Bool.true_or, eq_comm]
      simp only [flipped, empty, false_or]

/-- A library of two tracks, the first of them without an artist, with the cursor on a row. -/
def untaggedLibrary (row : Nat) : Browser :=
  ofViews [View.ofTracks .library "Library" (TrackList.run
    [.append { file := "a.ogg" }, .append { file := "b.ogg", artist := "Bo" }, .putCursor row])]

theorem untaggedLibrary_made (row : Nat) : (untaggedLibrary row).Made :=
  ofRun_made .library "Library" _

/-- With the cursor on the track that has an artist, only this one is selected. -/
theorem selectSame_tracks_untaggedLibrary :
    (untaggedLibrary 1).Made ∧
      ∃ list track later, (untaggedLibrary 1).activeList? = some list ∧ 0 < list.size ∧
        list.cursorTrack? = some track ∧ track.text .artist = "Bo" ∧
        ((untaggedLibrary 1).selectSame .artist).activeList? = some later ∧
        later.tracks = list.selecting (track.sameValue .artist) := by
  obtain ⟨list, active⟩ : ∃ list, (untaggedLibrary 1).activeList? = some list := ⟨_, rfl⟩
  have stands : (untaggedLibrary 1).activeList?.bind TrackList.cursorTrack? =
      some { file := "b.ogg", artist := "Bo" } := by decide
  have sizes : (untaggedLibrary 1).activeList?.map TrackList.size = some 2 := by decide
  rw [active] at stands sizes
  have nonempty : 0 < list.size := by
    rw [Option.some_inj.mp sizes]
    exact Nat.zero_lt_two
  obtain ⟨track, later, onCursor, result, _, _, _, _, exactly⟩ :=
    selectSame_tracks (untaggedLibrary_made 1) active nonempty .artist
  obtain rfl : { file := "b.ogg", artist := "Bo" } = track :=
    Option.some_inj.mp (stands.symm.trans onCursor)
  exact ⟨untaggedLibrary_made 1, list, _, later, active, nonempty, onCursor, rfl, result,
    exactly.mpr (.inl (by decide))⟩

/-- With the cursor on the track without an artist, the other one is selected too, and counted. -/
theorem selectSame_selects_others :
    ∃ list track later, (untaggedLibrary 0).activeList? = some list ∧
      list.cursorTrack? = some track ∧
      ((untaggedLibrary 0).selectSame .artist).activeList? = some later ∧
      later.tracks ≠ list.selecting (track.sameValue .artist) ∧
      ((untaggedLibrary 0).selectSame .artist).status = some "selected 2 more by artist" := by
  refine ⟨_, _, _, rfl, rfl, rfl, ?_, ?_⟩
  · decide +kernel
  · decide +kernel

end Browser

end TrackBrowser
