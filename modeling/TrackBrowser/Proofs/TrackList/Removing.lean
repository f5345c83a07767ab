/-
Module: TrackBrowser.Proofs.TrackList.Removing
Purpose: What is left of a list when some of its visible tracks are removed from the last to the
  first.
-/
import TrackBrowser.Proofs.TrackList.SelectionWalk

/-!
Taking a track renumbers all tracks behind it, the hidden ones among them, and cuts the visible
sequence at its place.  Nothing before that place changes, so the visible indices of the tracks that
are removed next still mean the same tracks.  What is left is said at once by `remaining`: each
track that stays has moved down by the number of removed ones before it.
-/

namespace TrackBrowser.TrackList

variable {exact : Prop} {list : TrackList}

/-! ### What is left -/

/-- What becomes of a track at a canonical index when those at some others are removed: it is
removed too, or moves down by the number of removed ones before it. -/
def survivor (removed : List Nat) (placed : Track × Nat) : Option Track :=
  if placed.2 ∈ removed then none
  else some (placed.1.shiftPosition (· - removed.countP (· < placed.2)))

/-- The tracks that are left, in the same order, when those at some canonical indices are
removed. -/
def remaining (removed : List Nat) (tracks : List Track) : List Track :=
  tracks.zipIdx.filterMap (survivor removed)

theorem mem_remaining {removed : List Nat} {tracks : List Track} {track : Track} :
    track ∈ remaining removed tracks ↔
      ∃ old canonical, tracks[canonical]? = some old ∧ canonical ∉ removed ∧
        track = old.shiftPosition (· - removed.countP (· < canonical)) := by
  simp only [remaining, List.mem_filterMap, Prod.exists, List.mem_zipIdx_iff_getElem?, survivor,
    ite_eq_iff, reduceCtorEq, and_false, false_or, Option.some.injEq, eq_comm (a := track)]

/-- Without removing any track, all stay where they are. -/
theorem remaining_nil (tracks : List Track) : remaining [] tracks = tracks := by
  have stays : survivor [] = some ∘ Prod.fst := by
    funext placed
    have still : placed.1.shiftPosition (· - 0) = placed.1 := by
      simp [Track.shiftPosition]
    simp only [survivor, List.not_mem_nil, if_false, List.countP_nil, still, Function.comp_apply]
  rw [remaining, stays, List.filterMap_eq_map, List.zipIdx_map_fst]

/-- The order in which tracks are named does not matter. -/
theorem remaining_reverse (removed : List Nat) (tracks : List Track) :
    remaining removed.reverse tracks = remaining removed tracks := by
  have same : survivor removed.reverse = survivor removed := by
    funext placed
    simp only [survivor, List.mem_reverse, List.countP_reverse]
  rw [remaining, same, remaining]

section Survivors

variable {removed : List Nat} {last canonical : Nat} (track : Track)

theorem survivor_before (before : canonical < last) :
    survivor (last :: removed) (track, canonical) = survivor removed (track, canonical) := by
  have other : canonical ≠ last := Nat.ne_of_lt before
  have uncounted : ¬ last < canonical := Nat.lt_asymm before
  simp [survivor, other, uncounted]

theorem survivor_self : survivor (last :: removed) (track, last) = none := by
  simp [survivor]

/-- A track behind all removed ones is behind them still when it has moved down. -/
theorem survivor_after (below : ∀ other ∈ removed, other < last) (after : last ≤ canonical) :
    survivor (last :: removed) (track, canonical + 1) =
      survivor removed (track.shiftPosition (· - 1), canonical) := by
  -- From the last one on, all removed tracks are before a place.
  have past : ∀ place, last ≤ place →
      place ∉ removed ∧ removed.countP (· < place) = removed.length := by
    intro place far
    constructor
    · intro member
      exact absurd (below place member) (Nat.not_lt.mpr far)
    · refine List.countP_eq_length.mpr fun earlier member => decide_eq_true ?_
      exact (below earlier member).trans_le far
  obtain ⟨still, count⟩ := past canonical after
  obtain ⟨others, counted⟩ := past (canonical + 1) (Nat.le_succ_of_le after)
  have ahead : last < canonical + 1 := Nat.lt_succ_of_le after
  have position : (track.shiftPosition (· - 1)).shiftPosition (· - removed.length) =
      track.shiftPosition (· - (removed.length + 1)) := by
    simp only [Track.shiftPosition, Option.map_map, Function.comp_def, Nat.sub_sub, Nat.add_comm]
  simp only [survivor, List.mem_cons, Nat.ne_of_gt ahead, others, still, or_self, if_false,
    List.countP_cons, counted, count, ahead, decide_true, if_true, position]

end Survivors

/-- Removing the last of some tracks first leaves the same of the others to remove. -/
theorem remaining_cons {removed : List Nat} {last : Nat} {tracks : List Track}
    (below : ∀ other ∈ removed, other < last) (inside : last < tracks.length) :
    remaining (last :: removed) tracks = remaining removed (tracks.take last ++
      (tracks.drop (last + 1)).map (Track.shiftPosition (· - 1))) := by
  have parts : tracks = tracks.take last ++ tracks[last] :: tracks.drop (last + 1) := by
    rw [List.cons_getElem_drop_succ, List.take_append_drop]
  have before : (tracks.take last).length = last := List.length_take_of_le inside.le
  have kept : (tracks.take last).zipIdx.filterMap (survivor (last :: removed)) =
      (tracks.take last).zipIdx.filterMap (survivor removed) := by
    refine List.filterMap_congr fun placed member => ?_
    have low := List.snd_lt_of_mem_zipIdx member
    rw [before] at low
    exact survivor_before placed.1 low
  have moved : ((tracks.drop (last + 1)).zipIdx (last + 1)).filterMap
      (survivor (last :: removed)) =
      (((tracks.drop (last + 1)).map (Track.shiftPosition (· - 1))).zipIdx last).filterMap
        (survivor removed) := by
    rw [List.zipIdx_succ, List.filterMap_map, List.zipIdx_map, List.filterMap_map]
    refine List.filterMap_congr fun placed member => ?_
    exact survivor_after placed.1 below (List.le_snd_of_mem_zipIdx member)
  conv => lhs; rw [parts]
  rw [remaining, remaining, List.zipIdx_append, List.zipIdx_append, List.filterMap_append,
    List.filterMap_append, List.zipIdx_cons, List.filterMap_cons, before, Nat.zero_add,
    survivor_self, kept, moved]

/-! ### Taking a visible track -/

section Visible

variable {index other canonical : Nat} (coherent : list.Coherent)
  (shown : list.visible[index]? = some canonical)

include coherent shown

/-- The visible tracks before a visible one are those at smaller visible indices. -/
theorem takeWhile_visible : list.visible.takeWhile (· < canonical) = list.visible.take index := by
  obtain ⟨inside, here⟩ := List.getElem?_eq_some_iff.mp shown
  have parts : list.visible =
      list.visible.take index ++ canonical :: list.visible.drop (index + 1) := by
    rw [← here, List.cons_getElem_drop_succ, List.take_append_drop]
  have ascending := coherent.ascending
  rw [parts] at ascending
  have before := (List.pairwise_append.mp ascending).2.2
  conv => lhs; rw [parts]
  rw [List.takeWhile_append_of_pos]
  · simp
  · intro earlier member
    exact decide_eq_true (before earlier member _ List.mem_cons_self)

/-- Taking a visible track leaves those before it at their visible indices. -/
theorem getElem?_visible_take (before : other < index) (track : Track) :
    (list.take canonical track).visible[other]? = list.visible[other]? := by
  have inside := (List.getElem?_eq_some_iff.mp shown).1
  have within : other < (list.visible.take index).length := by
    rw [List.length_take_of_le inside.le]
    exact before
  rw [take_visible, takeWhile_visible coherent shown, List.getElem?_append_left within,
    List.getElem?_take_of_lt before]

/-- Tracks at smaller visible indices have smaller canonical indices. -/
theorem canonicalIndices_lt {indices : List Nat} (before : ∀ other ∈ indices, other < index) :
    ∀ earlier ∈ list.canonicalIndices indices, earlier < canonical := by
  intro earlier member
  obtain ⟨other, chosen, there⟩ := List.mem_filterMap.mp member
  obtain ⟨inside, rfl⟩ := List.getElem?_eq_some_iff.mp shown
  obtain ⟨within, rfl⟩ := List.getElem?_eq_some_iff.mp there
  exact List.pairwise_iff_getElem.mp coherent.ascending _ _ within inside (before other chosen)

end Visible

/-- Removing at a visible index of a list that may be edited takes the track shown there. -/
theorem removeAt_eq (coherent : list.Coherent) (editable : list.readOnly = false) {index : Nat}
    (inside : index < list.size) : ∃ canonical track, list.visible[index]? = some canonical ∧
      list.tracks[canonical]? = some track ∧
      list.removeAt index = .ok (list.take canonical track, track) := by
  have shown : list.visible[index]? = some list.visible[index] := List.getElem?_eq_getElem inside
  have there := List.getElem?_eq_getElem (coherent.inside (List.mem_of_getElem? shown))
  refine ⟨_, _, shown, there, ?_⟩
  simp only [removeAt, editable, shown, Option.bind_some, takeAt?, there,
    Option.map_some, Bool.false_eq_true, if_false]

/-! ### Which tracks are removed -/

/-- The canonical indices of the selected tracks, in ascending order. -/
def marked (list : TrackList) : List Nat :=
  (List.range list.tracks.length).filter fun canonical =>
    list.tracks[canonical]?.any Track.selected

/-- The canonical indices of the selected tracks, or else that of the track under the cursor. -/
def doomed (list : TrackList) : List Nat :=
  if list.marked = [] then (list.cursorIndex?.bind fun index => list.visible[index]?).toList
  else list.marked

/-- Selected tracks are doomed. -/
theorem mem_doomed {canonical : Nat} {track : Track}
    (there : list.tracks[canonical]? = some track) (selected : track.selected = true) :
    canonical ∈ list.doomed := by
  have inside := (List.getElem?_eq_some_iff.mp there).1
  have member : canonical ∈ list.marked := by
    rw [marked, List.mem_filter, there]
    exact ⟨List.mem_range.mpr inside, selected⟩
  rw [doomed, if_neg (List.ne_nil_of_mem member)]
  exact member

theorem chosen_inside (list : TrackList) : ∀ index ∈ list.chosen, index < list.size := by
  intro index member
  unfold chosen at member
  split at member
  · exact cursorIndex?_lt (Option.mem_toList.mp member)
  · exact List.mem_range.mp (List.mem_of_mem_filter member)

/-- The selected tracks are visible, so they are at the selected visible indices. -/
theorem Accounted.canonicalIndices_selectedIndices (accounted : list.Accounted exact)
    (coherent : list.Coherent) : list.canonicalIndices list.selectedIndices = list.marked := by
  have shown := list.canonicalIndices_filter Track.selected 0
  rw [Nat.sub_zero, ← List.range_eq_range', List.drop_zero, coherent.visible_eq, passingIndices,
    List.filter_filter] at shown
  refine shown.trans (List.filter_congr fun canonical _ => ?_)
  cases there : list.tracks[canonical]? with
  | none => rfl
  | some track =>
    have passes := accounted.passing track (List.mem_of_getElem? there)
    cases selected : track.selected with
    | false => simp only [Option.any_some, selected, Bool.false_and]
    | true => simp only [Option.any_some, selected, passes selected, Bool.and_self]

/-- What a walk gives from its start are the doomed tracks. -/
theorem Accounted.canonicalIndices_chosen (accounted : list.Accounted exact)
    (coherent : list.Coherent) : list.canonicalIndices list.chosen = list.doomed := by
  have same := accounted.canonicalIndices_selectedIndices coherent
  have length : list.marked.length = list.selectedIndices.length := by
    rw [← same]
    exact length_canonicalIndices fun index member =>
      List.mem_range.mp (List.mem_of_mem_filter member)
  have empty : list.marked = [] ↔ list.selectedIndices = [] := by
    rw [← List.length_eq_zero_iff, length, List.length_eq_zero_iff]
  rw [chosen, doomed]
  simp only [empty]
  split
  · cases list.cursorIndex? with
    | none => rfl
    | some index =>
      cases shown : list.visible[index]? <;>
        simp [canonicalIndices, shown]
  · exact same

/-- Where nothing is shown, nothing is doomed. -/
theorem Accounted.doomed_of_empty (accounted : list.Accounted exact) (coherent : list.Coherent)
    (empty : list.size = 0) : list.doomed = [] := by
  have nothing : list.chosen = [] := by
    refine List.eq_nil_iff_forall_not_mem.mpr fun index member => ?_
    have inside := list.chosen_inside index member
    rw [empty] at inside
    exact Nat.not_lt_zero index inside
  rw [← accounted.canonicalIndices_chosen coherent, nothing]
  rfl

/-- No track is left selected when the doomed ones are removed. -/
theorem selected_remaining_doomed (list : TrackList) :
    ∀ track ∈ remaining list.doomed list.tracks, track.selected = false := by
  intro track member
  obtain ⟨old, canonical, there, spared, rfl⟩ := mem_remaining.mp member
  cases selected : old.selected with
  | false => exact selected
  | true => exact absurd (mem_doomed there selected) spared

end TrackBrowser.TrackList
