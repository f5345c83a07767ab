/-
Module: TrackBrowser.Proofs.Browser.RemoveSelected
Purpose: Which tracks are left when the selected ones are removed.
-/
import TrackBrowser.Proofs.Browser.SelectSame

/-!
The command collects the visible indices of the selected tracks before it removes any, and removes
the last ones first.  What it leaves is the list without exactly the selected tracks, or without the
one under the cursor where none is selected.
-/

namespace TrackBrowser

open TrackList (remaining)

/-- Handling keeps the invariants of a list, durations aside. -/
theorem TrackList.Handled.accounted {start list : TrackList} (handled : start.Handled list)
    (accounted : start.Accounted False) (coherent : start.Coherent) :
    list.Accounted False ∧ list.Coherent := by
  induction handled with
  | start => exact ⟨accounted, coherent⟩
  | @perform middle _ operation _ ih =>
    have ends := outcome_perform operation middle
    exact ⟨ih.1.outcome ih.2 False.elim False.elim ends, ih.2.outcome ends⟩

namespace Browser

variable {browser : Browser} {list : TrackList}

/-- Removing the selection works on the active list, and removes its doomed tracks. -/
theorem removeSelected_eq (accounted : list.Accounted False) (coherent : list.Coherent)
    (active : browser.activeList? = some list) (editable : list.readOnly = false) :
    ∃ later, browser.removeSelected = (browser.setActiveList later).setStatus
        ("removed " ++ Text.decimal list.doomed.length) ∧
      later.tracks = remaining list.doomed list.tracks ∧ later.Accounted False ∧
      later.tracks.length + list.doomed.length = list.tracks.length := by
  have collected := collectSelected_restartWalks accounted coherent
  have doomed := accounted.canonicalIndices_chosen coherent
  have counted : list.chosen.length = list.doomed.length := by
    rw [← doomed, TrackList.length_canonicalIndices list.chosen_inside]
  obtain ⟨later, removed, left, length⟩ :=
    removeEach_collectSelected coherent editable (list.size + 1)
  rw [collected] at removed left length
  have restarted : list.Handled list.restartWalks := .perform .start .restartWalks rfl
  have walked := restarted.trans (collectSelected_handled (list.size + 1) list.restartWalks)
  have handled := walked.trans (removeEach_handled _ list.chosen.reverse)
  rw [removed] at handled
  refine ⟨later, ?_, ?_, (handled.accounted accounted coherent).1, ?_⟩
  · simp only [removeSelected, active, editable, Bool.false_eq_true, if_false, collected, removed,
      counted, report, Except.map]
  · rw [left, doomed]
  · rw [← length, counted]

/-- On an active list that may be edited, the command leaves the tracks that are not selected, or
those that are not under the cursor where none is selected, in the same order; each moves down by
the number of removed tracks before it, and none is selected.  The message counts the removed
tracks.  No other view changes. -/
theorem removeSelected_tracks (made : browser.Made) (active : browser.activeList? = some list)
    (editable : list.readOnly = false) :
    ∃ later, browser.removeSelected.activeList? = some later ∧
      later.tracks = remaining list.doomed list.tracks ∧
      later.selectedCount = 0 ∧
      later.tracks.length + list.doomed.length = list.tracks.length ∧
      browser.removeSelected.status = some ("removed " ++ Text.decimal list.doomed.length) ∧
      (list.size = 0 → later.tracks = list.tracks) ∧
      ∀ index, index ≠ browser.active →
        browser.removeSelected.views[index]? = browser.views[index]? := by
  obtain ⟨view, there, tracks, coherent, accounted⟩ := made.activeList active
  obtain ⟨later, result, left, still, length⟩ :=
    removeSelected_eq accounted coherent active editable
  have edits := browser.removeSelected_edits
  rw [result] at edits ⊢
  refine ⟨later, activeList?_setActiveList there tracks later, left, ?_, length, rfl, ?_,
    fun index away => edits.elsewhere away⟩
  · have unselected := list.selected_remaining_doomed
    rw [← left] at unselected
    rw [still.counts.selectedCount, List.length_eq_zero_iff, List.filter_eq_nil_iff]
    intro track member
    rw [unselected track member]
    exact Bool.false_ne_true
  · intro empty
    rw [left, accounted.doomed_of_empty coherent empty, TrackList.remaining_nil]

/-- A library of four tracks, of which the second is hidden, with the first and the last selected
and a walk begun. -/
def pickedLibrary : Browser :=
  ofViews [View.ofTracks .library "Library" (TrackList.run TrackList.pickedRun)]

theorem pickedLibrary_made : pickedLibrary.Made :=
  ofRun_made .library "Library" _

/-- There the hidden track and the third one stay, and both move down by one position. -/
theorem removeSelected_tracks_pickedLibrary :
    pickedLibrary.Made ∧ ∃ list later, pickedLibrary.activeList? = some list ∧
      list.readOnly = false ∧ pickedLibrary.removeSelected.activeList? = some later ∧
      later.tracks.map (fun track => (track.file, track.position)) =
        [("second.ogg", some 0), ("third.ogg", some 1)] ∧
      later.selectedCount = 0 ∧ pickedLibrary.removeSelected.status = some "removed 2" := by
  obtain ⟨list, active⟩ : ∃ list, pickedLibrary.activeList? = some list := ⟨_, rfl⟩
  have states : pickedLibrary.activeList?.map (fun list => (list.readOnly, list.doomed.length,
      (remaining list.doomed list.tracks).map fun track => (track.file, track.position))) =
      some (false, 2, [("second.ogg", some 0), ("third.ogg", some 1)]) := by decide +kernel
  rw [active, Option.map_some, Option.some_inj, Prod.mk.injEq, Prod.mk.injEq] at states
  obtain ⟨editable, count, files⟩ := states
  obtain ⟨later, result, tracks, clear, _, status, _⟩ :=
    removeSelected_tracks pickedLibrary_made active editable
  have message : "removed " ++ Text.decimal 2 = "removed 2" := by decide +kernel
  rw [count, message] at status
  refine ⟨pickedLibrary_made, list, later, active, editable, result, ?_, clear, status⟩
  rw [tracks, files]

end Browser

end TrackBrowser
