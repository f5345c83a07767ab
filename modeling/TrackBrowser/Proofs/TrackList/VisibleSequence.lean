/-
Module: TrackBrowser.Proofs.TrackList.VisibleSequence
Purpose: The visible sequence holds exactly the indices of the tracks that pass every filter.
-/
import TrackBrowser.Proofs.TrackList.Checked

/-!
Placing and taking a track patch the visible sequence where it is: the part before the track stays,
the part after it moves by one.  `Coherent` is the invariant under which the patched sequence is the
one that a scan of all tracks would give.  What hides a track is its texts alone, so moving its
position or flipping its selection keeps it visible or hidden.
-/

namespace TrackBrowser

/-! ### What filters look at -/

namespace Track

@[simp] theorem text_shiftPosition (track : Track) (shift : Nat → Nat) (field : Field) :
    (track.shiftPosition shift).text field = track.text field := by
  cases field <;> rfl

@[simp] theorem text_deselected (track : Track) (field : Field) :
    track.deselected.text field = track.text field := by
  cases field <;> rfl

/-- Texts do not depend on the selection. -/
@[simp] theorem text_withSelection (track : Track) (selected : Bool) (field : Field) :
    { track with selected := selected }.text field = track.text field := by
  cases field <;> rfl

end Track

/-- A filter cannot tell two tracks with the same texts apart. -/
theorem Filter.accepts_congr (filter : Filter) {first second : Track}
    (same : ∀ field, first.text field = second.text field) :
    filter.accepts first = filter.accepts second := by
  simp only [Filter.accepts, Matcher.accepts, same]

namespace TrackList

/-- Two tracks with the same texts are visible or hidden together. -/
theorem passes_congr (list : TrackList) {first second : Track}
    (same : ∀ field, first.text field = second.text field) :
    list.passes first = list.passes second := by
  simp only [passes, Filter.accepts_congr _ same]

/-- Whether a track is selected hides or shows nothing. -/
@[simp] theorem passes_kept (list : TrackList) (track : Track) :
    list.passes (list.kept track) = list.passes track := by
  unfold kept
  split
  · rfl
  · exact list.passes_congr track.text_deselected

/-! ### Cutting ascending sequences -/

/-- The part of an ascending sequence before a bound. -/
theorem mem_takeWhile_lt {indices : List Nat} (ascending : indices.Pairwise (· < ·))
    (bound index : Nat) :
    index ∈ indices.takeWhile (· < bound) ↔ index ∈ indices ∧ index < bound := by
  induction indices with
  | nil => simp
  | cons first rest ih =>
    obtain ⟨least, ascending⟩ := List.pairwise_cons.mp ascending
    by_cases low : first < bound
    · simp only [List.takeWhile_cons, decide_eq_true low, if_true, List.mem_cons, ih ascending]
      constructor
      · rintro (rfl | ⟨member, below⟩)
        · exact ⟨.inl rfl, low⟩
        · exact ⟨.inr member, below⟩
      · rintro ⟨rfl | member, below⟩
        · exact .inl rfl
        · exact .inr ⟨member, below⟩
    · simp only [List.takeWhile_cons, decide_eq_false low, List.mem_cons]
      constructor
      · intro member
        simp at member
      · rintro ⟨rfl | member, below⟩
        · exact absurd below low
        · have above := least index member
          omega

/-- The part of an ascending sequence from a bound on. -/
theorem mem_dropWhile_lt {indices : List Nat} (ascending : indices.Pairwise (· < ·))
    (bound index : Nat) :
    index ∈ indices.dropWhile (· < bound) ↔ index ∈ indices ∧ bound ≤ index := by
  induction indices with
  | nil => simp
  | cons first rest ih =>
    obtain ⟨least, ascending⟩ := List.pairwise_cons.mp ascending
    by_cases low : first < bound
    · simp only [List.dropWhile_cons, decide_eq_true low, if_true, List.mem_cons, ih ascending]
      constructor
      · rintro ⟨member, above⟩
        exact ⟨.inr member, above⟩
      · rintro ⟨rfl | member, above⟩
        · omega
        · exact ⟨member, above⟩
    · simp only [List.dropWhile_cons, decide_eq_false low, Bool.false_eq_true, if_false,
        List.mem_cons]
      constructor
      · rintro (rfl | member)
        · exact ⟨.inl rfl, by omega⟩
        · have above := least index member
          exact ⟨.inr member, by omega⟩
      · rintro ⟨member, _⟩
        exact member

/-! ### The invariant -/

/-- The visible sequence is the ascending sequence of exactly the indices of passing tracks. -/
structure Coherent (list : TrackList) : Prop where
  ascending : list.visible.Pairwise (· < ·)
  mem_visible : ∀ canonical, canonical ∈ list.visible ↔
    ∃ track, list.tracks[canonical]? = some track ∧ list.passes track = true

namespace Coherent

theorem empty : Coherent {} := by
  constructor
  · exact .nil
  · intro canonical
    simp

/-- A visible index is the index of a track. -/
theorem inside {list : TrackList} (coherent : list.Coherent) {canonical : Nat}
    (shown : canonical ∈ list.visible) : canonical < list.tracks.length := by
  obtain ⟨track, found, _⟩ := (coherent.mem_visible canonical).mp shown
  exact (List.getElem?_eq_some_iff.mp found).1

end Coherent

variable {list : TrackList} {canonical : Nat}

/-! ### Placing and taking -/

/-- What placing a track does to the visible sequence. -/
theorem mem_visible_place (coherent : list.Coherent) (track : Track) (index : Nat) :
    index ∈ (list.place canonical track).visible ↔
      (index ∈ list.visible ∧ index < canonical) ∨
        (index = canonical ∧ list.passes track = true) ∨
          (canonical < index ∧ index - 1 ∈ list.visible) := by
  have moved : index ∈ (list.visible.dropWhile (· < canonical)).map (· + 1) ↔
      canonical < index ∧ index - 1 ∈ list.visible := by
    simp only [List.mem_map, mem_dropWhile_lt coherent.ascending]
    constructor
    · rintro ⟨old, ⟨shown, above⟩, rfl⟩
      exact ⟨by omega, by simpa using shown⟩
    · rintro ⟨above, shown⟩
      exact ⟨index - 1, ⟨shown, by omega⟩, by omega⟩
  rw [place_visible, List.mem_append, List.mem_append, mem_takeWhile_lt coherent.ascending, moved,
    or_assoc]
  cases list.passes track <;> simp

/-- What taking a track does to the visible sequence. -/
theorem mem_visible_take (coherent : list.Coherent) (track : Track) (index : Nat) :
    index ∈ (list.take canonical track).visible ↔
      (index ∈ list.visible ∧ index < canonical) ∨
        (canonical ≤ index ∧ index + 1 ∈ list.visible) := by
  have moved :
      index ∈ ((list.visible.dropWhile (· < canonical)).filter (· != canonical)).map (· - 1) ↔
        canonical ≤ index ∧ index + 1 ∈ list.visible := by
    simp only [List.mem_map, List.mem_filter, mem_dropWhile_lt coherent.ascending, bne_iff_ne]
    constructor
    · rintro ⟨old, ⟨⟨shown, above⟩, other⟩, rfl⟩
      have back : old - 1 + 1 = old := by omega
      exact ⟨by omega, by rwa [back]⟩
    · rintro ⟨above, shown⟩
      exact ⟨index + 1, ⟨⟨shown, by omega⟩, by omega⟩, by omega⟩
  rw [take_visible, List.mem_append, mem_takeWhile_lt coherent.ascending, moved]

/-- Indices below the placed track, its own and the moved ones above ascend. -/
theorem ascending_place (coherent : list.Coherent) (track : Track) :
    (list.place canonical track).visible.Pairwise (· < ·) := by
  have before : (list.visible.takeWhile (· < canonical)).Pairwise (· < ·) :=
    coherent.ascending.sublist (List.takeWhile_sublist _)
  have after : ((list.visible.dropWhile (· < canonical)).map (· + 1)).Pairwise (· < ·) := by
    rw [List.pairwise_map]
    exact (coherent.ascending.sublist (List.dropWhile_sublist _)).imp (by omega)
  rw [place_visible]
  simp only [List.pairwise_append, List.mem_append, List.mem_map,
    mem_takeWhile_lt coherent.ascending, mem_dropWhile_lt coherent.ascending]
  refine ⟨⟨before, ?_, ?_⟩, after, ?_⟩
  · split <;> simp
  · rintro low ⟨_, below⟩ middle placed
    split at placed <;> simp at placed
    omega
  · rintro low (⟨_, below⟩ | placed) high ⟨old, ⟨_, above⟩, rfl⟩
    · omega
    · split at placed <;> simp at placed
      omega

/-- No index above the taken track is its own, so all of them can move down. -/
theorem ascending_take (coherent : list.Coherent) (track : Track) :
    (list.take canonical track).visible.Pairwise (· < ·) := by
  have before : (list.visible.takeWhile (· < canonical)).Pairwise (· < ·) :=
    coherent.ascending.sublist (List.takeWhile_sublist _)
  have after : ((list.visible.dropWhile (· < canonical)).filter (· != canonical)).Pairwise
      (· < ·) :=
    (coherent.ascending.sublist (List.dropWhile_sublist _)).sublist List.filter_sublist
  rw [take_visible]
  simp only [List.pairwise_append, List.pairwise_map, List.mem_map, List.mem_filter,
    mem_takeWhile_lt coherent.ascending, mem_dropWhile_lt coherent.ascending, bne_iff_ne]
  refine ⟨before, ?_, ?_⟩
  · refine after.imp_of_mem ?_
    intro low high lowMember _ ordered
    simp only [List.mem_filter, mem_dropWhile_lt coherent.ascending, bne_iff_ne] at lowMember
    omega
  · rintro low ⟨_, below⟩ high ⟨old, ⟨⟨_, above⟩, other⟩, rfl⟩
    omega

namespace Coherent

/-- Placing a track patches the visible sequence rightly. -/
theorem place (coherent : list.Coherent) (inside : canonical ≤ list.tracks.length)
    (track : Track) : (list.place canonical track).Coherent := by
  refine ⟨ascending_place coherent track, ?_⟩
  intro index
  rw [mem_visible_place coherent, getElem?_place inside, passes_place]
  rcases Nat.lt_trichotomy index canonical with below | rfl | above
  · have other : index ≠ canonical := Nat.ne_of_lt below
    have notAfter : ¬ canonical < index := Nat.lt_asymm below
    rw [if_pos below, ← coherent.mem_visible]
    simp [below, other, notAfter]
  · simp
  · have other : index ≠ canonical := Nat.ne_of_gt above
    have notBefore : ¬ index < canonical := Nat.lt_asymm above
    rw [if_neg notBefore, if_neg other, ← coherent.mem_visible]
    simp [above, other, notBefore]

/-- Taking a track patches the visible sequence rightly. -/
theorem take (coherent : list.Coherent) (canonical : Nat) (track : Track) :
    (list.take canonical track).Coherent := by
  refine ⟨ascending_take coherent track, ?_⟩
  intro index
  rw [mem_visible_take coherent, getElem?_take, passes_take]
  by_cases below : index < canonical
  · have notFrom : ¬ canonical ≤ index := Nat.not_le_of_lt below
    rw [if_pos below, ← coherent.mem_visible]
    simp [below, notFrom]
  · rw [if_neg below, coherent.mem_visible (index + 1)]
    constructor
    · rintro (⟨_, low⟩ | ⟨_, old, found, passing⟩)
      · exact absurd low below
      · refine ⟨old.shiftPosition (· - 1), by simp [found], ?_⟩
        rwa [list.passes_congr (old.text_shiftPosition _)]
    · rintro ⟨shifted, found, passing⟩
      obtain ⟨old, there, rfl⟩ := Option.map_eq_some_iff.mp found
      rw [list.passes_congr (old.text_shiftPosition _)] at passing
      exact .inr ⟨by omega, old, there, passing⟩

/-- A rebuilt visible sequence is right, whatever it was before. -/
theorem rebuild (list : TrackList) (wasEmpty : Bool) : (list.rebuild wasEmpty).Coherent := by
  have scanned : (list.rebuild wasEmpty).visible = list.passingIndices := rfl
  constructor
  · rw [scanned]
    exact List.pairwise_lt_range.sublist List.filter_sublist
  · intro index
    rw [scanned, rebuild_tracks, passes_rebuild, passingIndices, List.mem_filter, List.mem_range,
      List.getElem?_map]
    constructor
    · rintro ⟨inside, passing⟩
      refine ⟨_, by rw [List.getElem?_eq_getElem inside]; rfl, ?_⟩
      rw [passes_kept]
      simpa [List.getElem?_eq_getElem inside] using passing
    · rintro ⟨track, found, passing⟩
      obtain ⟨old, there, rfl⟩ := Option.map_eq_some_iff.mp found
      rw [passes_kept] at passing
      exact ⟨(List.getElem?_eq_some_iff.mp there).1, by simpa [there] using passing⟩

/-- Moving the positions of tracks hides and shows none. -/
theorem shiftFrom (coherent : list.Coherent) (canonical : Nat) :
    (list.shiftFrom canonical).Coherent := by
  constructor
  · exact coherent.ascending
  · intro index
    have visible : (list.shiftFrom canonical).visible = list.visible := rfl
    rw [visible, passes_shiftFrom, getElem?_shiftFrom, coherent.mem_visible]
    split
    · rfl
    · cases list.tracks[index]? with
      | none => simp
      | some track => simp [list.passes_congr (track.text_shiftPosition _)]

/-- Flipping the selection of a track hides and shows none. -/
theorem flip {track : Track} (coherent : list.Coherent)
    (found : list.tracks[canonical]? = some track) (selected : Bool) :
    (list.flip canonical track selected).Coherent := by
  constructor
  · exact coherent.ascending
  · intro index
    have visible : (list.flip canonical track selected).visible = list.visible := rfl
    rw [visible, passes_flip, flip_tracks, coherent.mem_visible]
    have inside := (List.getElem?_eq_some_iff.mp found).1
    by_cases here : index = canonical
    · subst here
      rw [List.getElem?_set_self inside, found]
      simp [list.passes_congr (track.text_withSelection selected)]
    · rw [List.getElem?_set_ne (Ne.symm here)]

/-- Every stage of an operation on a coherent list is coherent. -/
theorem stage {start : TrackList} (coherent : start.Coherent) (stage : Stage start list) :
    list.Coherent := by
  induction stage with
  | start => exact coherent
  | adjust _ _ _ _ _ _ _ ih => exact ⟨ih.ascending, ih.mem_visible⟩
  | steer command redraw => exact ⟨coherent.ascending, coherent.mem_visible⟩
  | take _ _ ih => exact ih.take _ _
  | shift _ canonical ih => exact ih.shiftFrom canonical
  | flip _ _ found _ ih => exact ih.flip found _
  | clear =>
    constructor
    · exact .nil
    · intro index
      simp [clear, settle, restartWalks]

/-- An operation on a coherent list ends with a coherent list. -/
theorem outcome {operation : Operation} {start : TrackList} (coherent : start.Coherent)
    (outcome : Outcome operation start list) : list.Coherent := by
  cases outcome with
  | stage stage => exact coherent.stage stage
  | place stage inside => exact (coherent.stage stage).place inside _
  | rebuild draft => exact Coherent.rebuild _ _

/-- Every run leads to a coherent list. -/
theorem run (operations : List Operation) : (TrackList.run operations).Coherent :=
  run_induction empty
    (fun _ operation coherent => coherent.outcome (outcome_perform operation _)) operations

/-- On a coherent list no index of an operation is out of range, at none of its stages. -/
theorem admits_openGuard {start : TrackList} (coherent : start.Coherent) (operation : Operation) :
    Checked.Admits openGuard operation start where
  inside stage shown := (coherent.stage stage).inside shown
  place _ _ _ := rfl
  take _ _ := rfl
  mark _ _ _ := rfl
  rebuild _ _ := rfl

/-- The visible indices of a coherent list are those at which there is a track. -/
theorem isSome_get? (coherent : list.Coherent) (index : Nat) :
    (list.get? index).isSome = true ↔ index < list.size := by
  unfold get? size
  by_cases below : index < list.visible.length
  · have shown := List.getElem?_eq_getElem below
    have inside := coherent.inside (List.mem_of_getElem? shown)
    simp [below, inside]
  · simp [below]

theorem exists_get? (coherent : list.Coherent) {index : Nat} (inside : index < list.size) :
    ∃ track, list.get? index = some track :=
  Option.isSome_iff_exists.mp ((coherent.isSome_get? index).mpr inside)

/-- A list that shows tracks has one under its cursor. -/
theorem exists_onCursor (coherent : list.Coherent) (nonempty : 0 < list.size) :
    ∃ cursor track, list.cursorIndex? = some cursor ∧ cursor < list.size ∧
      list.get? cursor = some track := by
  have inside : min list.cursor.index (list.size - 1) < list.size :=
    Nat.lt_of_le_of_lt (Nat.min_le_right _ _) (Nat.sub_one_lt_of_lt nonempty)
  obtain ⟨track, found⟩ := coherent.exists_get? inside
  exact ⟨_, track, if_pos nonempty, inside, found⟩

end Coherent

/-! ### Visible tracks -/

/-- Reading consecutive places of a list gives a part of it. -/
theorem filterMap_range'_getElem? {α : Type} (elements : List α) (first count : Nat) :
    (List.range' first count).filterMap (fun index => elements[index]?) =
      (elements.drop first).take count := by
  induction count generalizing first with
  | zero => rw [List.range'_zero, List.filterMap_nil, List.take_zero]
  | succ count ih =>
    rw [List.range'_succ, List.filterMap_cons, ih]
    cases there : elements[first]? with
    | none =>
      have past := List.getElem?_eq_none_iff.mp there
      rw [List.drop_eq_nil_of_le past, List.drop_eq_nil_of_le (Nat.le_succ_of_le past),
        List.take_nil, List.take_nil]
    | some element =>
      obtain ⟨inside, rfl⟩ := List.getElem?_eq_some_iff.mp there
      rw [List.drop_eq_getElem_cons inside, List.take_succ_cons]

theorem mem_passingIndices : canonical ∈ list.passingIndices ↔
    ∃ track, list.tracks[canonical]? = some track ∧ list.passes track = true := by
  rw [passingIndices, List.mem_filter, List.mem_range, Option.any_eq_true, and_iff_right_of_imp]
  rintro ⟨track, found, _⟩
  exact (List.getElem?_eq_some_iff.mp found).1

/-- Reading the passing tracks at their indices. -/
theorem filterMap_passingIndices (list : TrackList) :
    (list.passingIndices.filterMap fun canonical => list.tracks[canonical]?) =
      list.tracks.filter list.passes := by
  have all : (List.range list.tracks.length).filterMap (fun canonical => list.tracks[canonical]?) =
      list.tracks := by
    rw [List.range_eq_range', filterMap_range'_getElem?, List.drop_zero, List.take_length]
  conv => rhs; rw [← all]
  rw [List.filter_filterMap, passingIndices, List.filterMap_filter]
  congr 1
  funext canonical
  cases list.tracks[canonical]? with
  | none => rfl
  | some track => rfl

theorem length_passingIndices (list : TrackList) :
    list.passingIndices.length = (list.tracks.filter list.passes).length := by
  rw [← filterMap_passingIndices, List.length_filterMap_eq_countP, eq_comm, List.countP_eq_length]
  intro canonical member
  obtain ⟨track, found, _⟩ := mem_passingIndices.mp member
  rw [found, Option.isSome_some]

namespace Coherent

/-- The visible sequence is what a scan of all tracks gives. -/
theorem visible_eq (coherent : list.Coherent) : list.visible = list.passingIndices := by
  have ascending : list.passingIndices.Pairwise (· < ·) :=
    List.pairwise_lt_range.sublist List.filter_sublist
  refine List.Perm.eq_of_pairwise ?_ coherent.ascending ascending ?_
  · intro low high _ _ below above
    exact absurd below (Nat.lt_asymm above)
  · rw [List.perm_ext_iff_of_nodup (coherent.ascending.imp Nat.ne_of_lt)
      (ascending.imp Nat.ne_of_lt)]
    intro canonical
    rw [coherent.mem_visible, mem_passingIndices]

/-- The visible tracks are those that pass, in the order of all tracks. -/
theorem visibleTracks_eq (coherent : list.Coherent) :
    list.visibleTracks = list.tracks.filter list.passes := by
  rw [visibleTracks, coherent.visible_eq, filterMap_passingIndices]

end Coherent

/-! ### Where filters come from -/

/-- On the way to its end an operation leaves the filters alone, and the handle of the next one. -/
theorem Stage.filters_eq {start : TrackList} (stage : Stage start list) :
    list.filters = start.filters ∧ list.nextHandle = start.nextHandle := by
  induction stage with
  | start | steer | clear => exact ⟨rfl, rfl⟩
  | adjust _ _ _ _ _ _ _ ih => exact ih
  | take _ _ ih => exact ih
  | shift _ _ ih => exact ih
  | flip _ _ _ _ ih => exact ih

/-- An operation leaves only filters that were there or that it makes itself. -/
theorem Outcome.filter_born {operation : Operation} {start : TrackList}
    (outcome : Outcome operation start list) {filter : Filter} (active : filter ∈ list.filters) :
    filter ∈ start.filters ∨
      ∃ pattern mask, operation = .addFilter pattern mask ∧
        filter = start.newFilter pattern mask := by
  cases outcome with
  | stage stage => exact .inl (stage.filters_eq.1 ▸ active)
  | place stage _ => exact .inl (stage.filters_eq.1 ▸ active)
  | rebuild draft =>
    cases draft with
    | load tracks => exact .inl active
    | reorder perm => exact .inl active
    | narrow fewer => exact .inl (fewer.mem active)
    | extend called =>
      rcases List.mem_append.mp active with old | new
      · exact .inl old
      · exact .inr ⟨_, _, called, List.mem_singleton.mp new⟩

/-- Every active filter was compiled by a call of the run, under the settings of the list then. -/
theorem filter_born (operations : List Operation) {filter : Filter}
    (active : filter ∈ (run operations).filters) :
    ∃ before pattern mask after, operations = before ++ .addFilter pattern mask :: after ∧
      filter = (run before).newFilter pattern mask := by
  induction operations using List.reverseRecOn with
  | nil => cases active
  | append_singleton operations operation ih =>
    rw [run_concat] at active
    rcases (outcome_perform operation _).filter_born active with old | ⟨pattern, mask, rfl, new⟩
    · obtain ⟨before, pattern, mask, after, rfl, made⟩ := ih old
      exact ⟨before, pattern, mask, after ++ [operation], by simp, made⟩
    · exact ⟨operations, pattern, mask, [], rfl, new⟩

/-! ### The visible sequence of a run -/

/-- After every run, the visible sequence is the ascending sequence of exactly the indices of those
tracks that every active filter accepts, each filter being the one that was compiled when it was
added.  So there is a track at each visible index, and none of the operations used an index out of
range. -/
theorem visible_run (operations : List Operation) :
    (run operations).visible.Pairwise (· < ·) ∧
      (∀ canonical, canonical ∈ (run operations).visible ↔
        ∃ track, (run operations).tracks[canonical]? = some track ∧
          ∀ filter ∈ (run operations).filters, filter.accepts track = true) ∧
      (∀ filter ∈ (run operations).filters, ∃ before pattern mask after,
        operations = before ++ .addFilter pattern mask :: after ∧
          filter = (run before).newFilter pattern mask) ∧
      (∀ index, ((run operations).get? index).isSome = true ↔ index < (run operations).size) ∧
      Checked.run openGuard operations = some (run operations) := by
  have coherent := Coherent.run operations
  refine ⟨coherent.ascending, ?_, ?_, coherent.isSome_get?, ?_⟩
  · intro canonical
    rw [coherent.mem_visible]
    simp only [passes, List.all_eq_true]
  · intro filter active
    exact filter_born operations active
  · apply Checked.run_eq
    intro earlier operation _
    exact (Coherent.run earlier).admits_openGuard operation

end TrackList

end TrackBrowser
