/-
Module: TrackBrowser.Proofs.Browser.ReadOnly
Purpose: No key press changes the tracks of a read-only list.
-/
import TrackBrowser.Proofs.Browser.Operation

/-!
Loading, clearing, truncating and copying into a list do not ask whether it is read-only.  No key
reaches them: whatever is pressed, every list that was there is merely handled, and handling leaves
a read-only list intact.
-/

namespace TrackBrowser

namespace Session

/-- After any presses, in any order and any mode of the input, a read-only list is found at its
place.  It is read-only still, and its tracks are those that it had, in some order, each unchanged
but for its selection. -/
theorem respondAll_readOnly (settings : Settings) (session : Session) (presses : List Press)
    {index : Nat} {view : View} {list : TrackList}
    (there : session.browser.views[index]? = some view) (tracks : view.list? = some list)
    (locked : list.readOnly = true) :
    ∃ added later kept,
      (session.respondAll settings presses).browser.views.length =
        session.browser.views.length + added ∧
      (session.respondAll settings presses).browser.views[
        session.browser.placeAfter added index]? = some later ∧
      later.kind = view.kind ∧ later.title = view.title ∧ later.list? = some kept ∧
      kept.readOnly = true ∧
      (kept.tracks.map Track.deselected).Perm (list.tracks.map Track.deselected) := by
  obtain ⟨added, _, grown⟩ := session.respondAll_grown settings presses
  obtain ⟨later, found, continues⟩ := grown.views there
  obtain ⟨kept, shown, handled⟩ := continues.list tracks
  have intact := handled.intact locked
  exact ⟨added, later, kept, grown.length, found, continues.kind, continues.title, shown,
    intact.readOnly.trans locked, intact.perm⟩

/-- A read-only library of two tracks, shown by a program without playlists. -/
def lockedLibrary : TrackList :=
  (({} : TrackList).load [{ file := "b.ogg", time := some 3, id := some 7 },
    { file := "a.ogg", selected := true }]).setReadOnly true

/-- Keys that select, copy to a playlist, try to remove, sort, filter, save and switch, and a
shuffle. -/
def busyPresses : List Press :=
  [.key ⟨.char 'V', false⟩, .key ⟨.char 'v', false⟩, .key ⟨.char 'a', false⟩,
    .key ⟨.char 'd', false⟩, .key ⟨.char 'o', false⟩, .key ⟨.char 'f', false⟩,
    .key ⟨.char 'x', false⟩, .key ⟨.enter, false⟩, .key ⟨.char 'w', false⟩,
    .shuffle ⟨List.reverse, List.reverse_perm⟩, .key ⟨.tab, false⟩, .key ⟨.char 'd', false⟩]

/-- What such presses leave of the library. -/
theorem respondAll_readOnly_busyPresses :
    let session : Session := ⟨.ofViews [View.ofTracks .library "Library" lockedLibrary], false⟩
    session.browser.views[0]? = some (View.ofTracks .library "Library" lockedLibrary) ∧
      (View.ofTracks .library "Library" lockedLibrary).list? = some lockedLibrary ∧
      lockedLibrary.readOnly = true ∧
      ∃ added later kept,
        (session.respondAll {} busyPresses).browser.views.length =
          session.browser.views.length + added ∧
        (session.respondAll {} busyPresses).browser.views[
          session.browser.placeAfter added 0]? = some later ∧
        later.kind = .library ∧ later.title = "Library" ∧ later.list? = some kept ∧
        kept.readOnly = true ∧
        (kept.tracks.map Track.deselected).Perm (lockedLibrary.tracks.map Track.deselected) := by
  intro session
  have there : session.browser.views[0]? =
      some (View.ofTracks .library "Library" lockedLibrary) := rfl
  have tracks : (View.ofTracks .library "Library" lockedLibrary).list? = some lockedLibrary := rfl
  have locked : lockedLibrary.readOnly = true := rfl
  exact ⟨there, tracks, locked,
    session.respondAll_readOnly {} busyPresses there tracks locked⟩

end Session

end TrackBrowser
