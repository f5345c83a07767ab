/-
Module: TrackBrowser.Proofs.Browser.Picking
Purpose: The loops of commands that take tracks out of a selection, out of a list, or into one.
-/
import TrackBrowser.Browser.Commands
import TrackBrowser.Proofs.TrackList.Handling
import TrackBrowser.Proofs.TrackList.Removing

/-!
Removing the selection collects the indices that a walk gives and then removes their tracks from
the last to the first.  The walk gives them in ascending order, so each is in range when its turn
comes, and no removal fails.  Copying the selection drains it: where something is selected, that
takes marks away and gives tracks; where nothing is, it only walks.  Appending fails on read-only
lists alone, and on those before anything is appended.

What each round of such a loop keeps, the loop keeps: `drainSelection_keeps` and
`collectSelected_keeps` say so of the walking loops, and the others are folds.
-/

namespace TrackBrowser

namespace Browser

open TrackList (Coherent Accounted remaining)

variable {exact : Prop} {list : TrackList}

/-! ### Collecting the selection -/

/-- What each step of a walk keeps, collecting keeps. -/
theorem collectSelected_keeps (property : TrackList → Prop)
    (step : ∀ {list : TrackList}, property list → property list.nextSelected.1)
    (holds : property list) (fuel : Nat) : property (collectSelected fuel list).1 := by
  induction fuel generalizing list with
  | zero => exact holds
  | succ fuel ih =>
    have next := step holds
    unfold collectSelected
    split <;> rename_i found <;> rw [found] at next
    · exact next
    · exact ih next

theorem collectSelected_handled (fuel : Nat) (list : TrackList) :
    list.Handled (collectSelected fuel list).1 :=
  collectSelected_keeps list.Handled (fun handled => handled.perform .nextSelected rfl) .start fuel

theorem collectSelected_walked (fuel : Nat) (list : TrackList) :
    list.Walked (collectSelected fuel list).1 :=
  collectSelected_keeps list.Walked (fun walked => walked.trans (TrackList.nextSelected_walked _))
    .refl fuel

/-- Collecting gives what the walk has ahead. -/
theorem collectSelected_eq (fuel : Nat) (list : TrackList) :
    (collectSelected fuel list).2 = list.ahead.take fuel := by
  induction fuel generalizing list with
  | zero => rfl
  | succ fuel ih =>
    obtain ⟨first, others⟩ := list.nextSelected_ahead
    unfold collectSelected
    split <;> rename_i given <;> rw [given] at first others
    · rw [List.head?_eq_none_iff.mp first.symm, List.take_nil]
    · rename_i next index
      have parts : list.ahead = index :: list.ahead.tail :=
        List.eq_cons_of_mem_head? first.symm
      rw [parts, List.take_succ_cons, ← others, ← ih]

/-- Collecting from a restart on gives all that a walk gives from its start. -/
theorem collectSelected_restartWalks (accounted : list.Accounted exact) (coherent : list.Coherent) :
    (collectSelected (list.size + 1) list.restartWalks).2 = list.chosen := by
  obtain ⟨start, few⟩ := TrackList.ahead_restartWalks accounted coherent
  rw [collectSelected_eq, start, List.take_of_length_le (Nat.le_succ_of_le few)]

/-! ### Removing the selection -/

theorem removeEach_handled (list : TrackList) (indices : List Nat) :
    list.Handled (removeEach list indices).1 := by
  unfold removeEach
  refine List.foldlRecOn (motive := fun state : TrackList × Except ListError Unit =>
    list.Handled state.1) indices _ .start ?_
  rintro ⟨shorter, outcome⟩ handled index _
  have removed : list.Handled (shorter.perform (.removeAt index)) := handled.perform _ rfl
  cases outcome with
  | error failure => exact handled
  | ok _ =>
    simp only [TrackList.perform] at removed
    dsimp only
    split <;> rename_i taken <;> rw [taken] at removed
    · exact removed
    · exact handled

theorem removeEach_cons {shorter : TrackList} {track : Track} {index : Nat}
    (removed : list.removeAt index = .ok (shorter, track)) (indices : List Nat) :
    removeEach list (index :: indices) = removeEach shorter indices := by
  simp only [removeEach, List.foldl_cons, removed]

/-- Removing visible tracks from the last to the first succeeds, and leaves what remains of them
all. -/
theorem removeEach_eq (coherent : list.Coherent) (editable : list.readOnly = false)
    {indices : List Nat} (descending : indices.Pairwise (· > ·))
    (inside : ∀ index ∈ indices, index < list.size) :
    ∃ shorter, removeEach list indices = (shorter, .ok ()) ∧
      shorter.tracks = remaining (list.canonicalIndices indices) list.tracks ∧
      shorter.tracks.length + indices.length = list.tracks.length := by
  induction indices generalizing list with
  | nil => exact ⟨list, rfl, (TrackList.remaining_nil list.tracks).symm, rfl⟩
  | cons index indices ih =>
    obtain ⟨below, rest⟩ := List.pairwise_cons.mp descending
    obtain ⟨canonical, track, shown, there, removed⟩ :=
      TrackList.removeAt_eq coherent editable (inside index List.mem_cons_self)
    have held := (List.getElem?_eq_some_iff.mp there).1
    -- The indices left are below the one removed, where all tracks are shown as before.
    have same : ∀ other ∈ indices,
        (list.take canonical track).visible[other]? = list.visible[other]? := fun other member =>
      TrackList.getElem?_visible_take coherent shown (below other member) track
    have within : ∀ other ∈ indices, other < (list.take canonical track).size := by
      intro other member
      have visible := List.getElem?_eq_getElem (inside other (List.mem_cons_of_mem index member))
      exact (List.getElem?_eq_some_iff.mp ((same other member).trans visible)).1
    obtain ⟨shorter, outcome, tracks, length⟩ :=
      ih (coherent.take canonical track) editable rest within
    have still : (list.take canonical track).canonicalIndices indices =
        list.canonicalIndices indices := List.filterMap_congr same
    have first : list.canonicalIndices (index :: indices) =
        canonical :: list.canonicalIndices indices := by
      rw [TrackList.canonicalIndices, List.filterMap_cons, shown]
      rfl
    refine ⟨shorter, ?_, ?_, ?_⟩
    · rw [removeEach_cons removed, outcome]
    · rw [tracks, still, first, TrackList.take_tracks,
        TrackList.remaining_cons (TrackList.canonicalIndices_lt coherent shown below) held]
    · rw [TrackList.length_tracks_take held] at length
      rw [List.length_cons]
      omega

/-- The collected tracks of a list that may be edited are removed without failure. -/
theorem removeEach_collectSelected (coherent : list.Coherent) (editable : list.readOnly = false)
    (fuel : Nat) :
    let collected := collectSelected fuel list.restartWalks
    ∃ shorter, removeEach collected.1 collected.2.reverse = (shorter, .ok ()) ∧
      shorter.tracks = remaining (list.canonicalIndices collected.2) list.tracks ∧
      shorter.tracks.length + collected.2.length = list.tracks.length := by
  intro collected
  have walked : list.Walked collected.1 :=
    list.restartWalks_walked.trans (collectSelected_walked fuel list.restartWalks)
  have part : collected.2.Sublist (List.range list.size) := by
    rw [collectSelected_eq]
    exact (List.take_sublist _ _).trans list.restartWalks.ahead_sublist
  have descending : collected.2.reverse.Pairwise (· > ·) :=
    List.pairwise_reverse.mpr (List.pairwise_lt_range.sublist part)
  have inside : ∀ index ∈ collected.2.reverse, index < collected.1.size := by
    intro index member
    rw [walked.size_eq]
    exact List.mem_range.mp (part.mem (List.mem_reverse.mp member))
  obtain ⟨shorter, outcome, tracks, length⟩ := removeEach_eq (walked.coherent coherent)
    (walked.readOnly_eq.trans editable) descending inside
  refine ⟨shorter, outcome, ?_, ?_⟩
  · rw [tracks, walked.canonicalIndices_eq, walked.tracks_eq, TrackList.canonicalIndices,
      List.filterMap_reverse, TrackList.remaining_reverse]
    rfl
  · rw [List.length_reverse, walked.tracks_eq] at length
    exact length

/-! ### Draining the selection -/

/-- What each step of popping keeps, draining keeps. -/
theorem drainSelection_keeps (property : TrackList → Prop)
    (step : ∀ {list : TrackList}, property list → property list.popSelected.1)
    (holds : property list) (fuel : Nat) : property (drainSelection fuel list).1 := by
  induction fuel generalizing list with
  | zero => exact holds
  | succ fuel ih =>
    have popped := step holds
    unfold drainSelection
    split <;> rename_i found <;> rw [found] at popped
    · exact popped
    · exact ih popped

theorem drainSelection_handled (fuel : Nat) (list : TrackList) :
    list.Handled (drainSelection fuel list).1 :=
  drainSelection_keeps list.Handled (fun handled => handled.perform .popSelected rfl) .start fuel

/-- Draining a list does not make it read-only, nor the other way round. -/
theorem drainSelection_readOnly (fuel : Nat) (list : TrackList) :
    (drainSelection fuel list).1.readOnly = list.readOnly := by
  have survives : TrackList.SurvivesMarking fun later => later.readOnly = list.readOnly :=
    ⟨fun same _ _ _ => same, fun _ _ same => same⟩
  exact drainSelection_keeps (fun later => later.readOnly = list.readOnly) survives.popSelected rfl
    fuel

theorem drainSelection_selectedCount_le (fuel : Nat) (list : TrackList) :
    (drainSelection fuel list).1.selectedCount ≤ list.selectedCount := by
  have fewer : ∀ {later : TrackList}, later.selectedCount ≤ list.selectedCount →
      later.popSelected.1.selectedCount ≤ list.selectedCount :=
    fun less => (TrackList.popSelected_selectedCount_le _).trans less
  exact drainSelection_keeps (fun later => later.selectedCount ≤ list.selectedCount) fewer le_rfl
    fuel

/-- With nothing selected, draining only walks. -/
theorem drainSelection_walked (clear : ∀ track ∈ list.tracks, track.selected = false)
    (fuel : Nat) : list.Walked (drainSelection fuel list).1 := by
  have further : ∀ {later : TrackList}, list.Walked later → list.Walked later.popSelected.1 :=
    fun walked => walked.trans (TrackList.popSelected_walked (walked.unselected clear))
  exact drainSelection_keeps list.Walked further .refl fuel

/-- Draining gives the tracks that the walk has ahead, but for their selection, and leaves nothing
ahead that it has given. -/
theorem drainSelection_eq (coherent : list.Coherent) (fuel : Nat) :
    (drainSelection fuel list).2.map Track.deselected =
        (list.ahead.take fuel).filterMap (fun index => (list.get? index).map Track.deselected) ∧
      (drainSelection fuel list).1.ahead = list.ahead.drop fuel := by
  induction fuel generalizing list with
  | zero => exact ⟨rfl, rfl⟩
  | succ fuel ih =>
    have first := TrackList.foretells_popSelected.first list
    have others := TrackList.foretells_popSelected.others coherent
    have next := TrackList.foretells_popSelected.coherent coherent
    have marks := list.survivesMarking_unmarked.popSelected rfl
    unfold drainSelection
    split <;> rename_i given <;> rw [given] at first others next marks
    · have nothing := List.head?_eq_none_iff.mp first.symm
      rw [nothing] at others ⊢
      exact ⟨rfl, others⟩
    · rename_i popped index
      have parts : list.ahead = index :: list.ahead.tail := List.eq_cons_of_mem_head? first.symm
      obtain ⟨tracks, rest⟩ := ih next
      have same := TrackList.deselected_get?_of_unmarked marks
      simp only [others, same] at tracks rest
      rw [parts, List.take_succ_cons, List.drop_succ_cons, List.filterMap_cons, List.map_append,
        tracks, ← Option.toList_map, same]
      refine ⟨?_, rest⟩
      cases (list.get? index).map Track.deselected <;> rfl

/-- With something selected, draining takes marks away and gives tracks. -/
theorem drainSelection_of_fresh (accounted : list.Accounted exact) (coherent : list.Coherent)
    (fresh : list.forwardWalk = .fresh) (marks : 0 < list.selectedCount) (fuel : Nat) :
    (drainSelection (fuel + 1) list).1.selectedCount < list.selectedCount ∧
      (drainSelection (fuel + 1) list).2 ≠ [] := by
  obtain ⟨popped, index, first, fewer, held⟩ :=
    TrackList.popSelected_of_fresh accounted coherent fresh marks
  obtain ⟨track, there⟩ := Option.isSome_iff_exists.mp held
  simp only [drainSelection, first, there, Option.toList_some]
  exact ⟨(drainSelection_selectedCount_le fuel popped).trans_lt fewer, by simp⟩

/-! ### Appending -/

theorem appendAll_handled (list : TrackList) (tracks : List Track) :
    list.Handled (appendAll list tracks).1 := by
  unfold appendAll
  refine List.foldlRecOn (motive := fun state : TrackList × Except ListError Nat =>
    list.Handled state.1) tracks _ .start ?_
  rintro ⟨longer, outcome⟩ handled track _
  have appended : list.Handled (longer.perform (.append track)) := handled.perform _ rfl
  cases outcome with
  | error failure => exact handled
  | ok count =>
    simp only [TrackList.perform] at appended
    dsimp only
    split <;> rename_i added <;> rw [added] at appended
    · exact appended
    · exact handled

/-- One more track is appended after all others. -/
theorem appendAll_append_singleton {longer : TrackList} {tracks : List Track} {count : Nat}
    (appended : appendAll list tracks = (longer, .ok count)) (editable : longer.readOnly = false)
    (track : Track) :
    appendAll list (tracks ++ [track]) =
      (longer.place longer.tracks.length track, .ok (count + 1)) := by
  unfold appendAll at appended ⊢
  rw [List.foldl_append, appended, List.foldl_cons, List.foldl_nil]
  simp only [TrackList.append, editable, Bool.false_eq_true, if_false]

/-- A list that may be edited takes every track and counts them all, and may be edited further. -/
theorem appendAll_of_editable (editable : list.readOnly = false) (tracks : List Track) :
    ∃ longer, appendAll list tracks = (longer, .ok tracks.length) ∧ longer.readOnly = false := by
  induction tracks using List.reverseRecOn with
  | nil => exact ⟨list, rfl, editable⟩
  | append_singleton tracks track ih =>
    obtain ⟨longer, appended, still⟩ := ih
    refine ⟨longer.place longer.tracks.length track, ?_, still⟩
    rw [appendAll_append_singleton appended still, List.length_append, List.length_singleton]

/-- The last track is placed at the end of what the others have made. -/
theorem appendAll_concat (editable : list.readOnly = false) (tracks : List Track) (track : Track) :
    (appendAll list (tracks ++ [track])).1 =
      (appendAll list tracks).1.place (appendAll list tracks).1.tracks.length track := by
  obtain ⟨longer, appended, still⟩ := appendAll_of_editable editable tracks
  rw [appendAll_append_singleton appended still, appended]

/-- A read-only list takes none and stays as it is. -/
theorem appendAll_of_readOnly (locked : list.readOnly = true) (tracks : List Track) :
    appendAll list tracks = (list, if tracks = [] then .ok 0 else .error .readOnly) := by
  cases tracks with
  | nil => rfl
  | cons track tracks =>
    have refused : list.append track = .error .readOnly := by
      simp only [TrackList.append, locked, if_true]
    simp only [appendAll, List.foldl_cons, refused, reduceCtorEq, if_false]
    refine List.foldlRecOn (motive := fun state : TrackList × Except ListError Nat =>
      state = (list, .error .readOnly)) tracks _ rfl ?_
    rintro _ rfl other _
    rfl

end Browser

end TrackBrowser
