/-
Module: TrackBrowser.Proofs.TrackList.FilterChange
Purpose: What adding and removing filters does to the selection.
-/
import TrackBrowser.Proofs.TrackList.Handling
import TrackBrowser.Proofs.TrackList.Totals

/-!
Filters come and go by the same rebuild of the visible sequence.  A new filter can only hide tracks,
and the selected ones among them lose their selection, for good: removing the filter shows them
again, not selected.  Removing a filter never touches the selection, because what is selected passes
all filters and so passes any part of them.
-/

namespace TrackBrowser.TrackList

variable {exact : Prop} {list : TrackList}

/-! ### Passing more filters or fewer -/

/-- What passes all filters passes some of them. -/
theorem passes_of_sublist {filters : List Filter} (fewer : filters.Sublist list.filters)
    {track : Track} (passing : list.passes track = true) :
    { list with filters := filters }.passes track = true := by
  rw [passes, List.all_eq_true] at passing ⊢
  intro filter active
  exact passing filter (fewer.mem active)

/-- With a new filter, a track has to pass it as well. -/
theorem passes_extended (list : TrackList) (pattern : String) (mask : FieldMask) (track : Track) :
    (list.extended pattern mask).passes track =
      (list.passes track && (list.newFilter pattern mask).accepts track) := by
  simp only [passes, extended, List.all_append, List.all_cons, List.all_nil, Bool.and_true]

/-- Which tracks pass can be told from the filters and the tracks without their selection. -/
theorem passingIndices_congr {other : TrackList} (filters : other.filters = list.filters)
    (tracks : other.tracks.map Track.deselected = list.tracks.map Track.deselected) :
    other.passingIndices = list.passingIndices := by
  have passes : other.passes = list.passes := by
    funext track
    rw [TrackList.passes, filters, ← TrackList.passes]
  have blind : ∀ track : Track, list.passes track.deselected = list.passes track := fun track =>
    list.passes_congr track.text_deselected
  have unmarked : ∀ (tracks : List Track) (canonical : Nat),
      tracks[canonical]?.any list.passes =
        (tracks.map Track.deselected)[canonical]?.any list.passes := by
    intro tracks canonical
    simp only [List.getElem?_map, Option.any_map, blind]
  have length : other.tracks.length = list.tracks.length := by
    simpa only [List.length_map] using congrArg List.length tracks
  rw [passingIndices, passingIndices, length]
  apply List.filter_congr
  intro canonical _
  rw [passes, unmarked other.tracks, unmarked list.tracks, tracks]

/-- A pattern that is refused makes a filter that accepts nothing. -/
theorem newFilter_accepts_of_refused {pattern : String} {failure : ListError}
    (refused : list.checkPattern pattern = .error failure) (mask : FieldMask) (track : Track) :
    (list.newFilter pattern mask).accepts track = false := by
  rw [checkPattern, Matcher.check, Matcher.checkWith] at refused
  cases regex : list.baseOptions.regex with
  | false => simp [regex, Except.mapError] at refused
  | true =>
    cases read : readRegex Pattern.seemsToFit pattern list.baseOptions.exact with
    | ok expr => simp [regex, read, Except.map, Except.mapError] at refused
    | error cause =>
      have needle : (list.newFilter pattern mask).matcher.needle = .regex none := by
        simp [newFilter, Matcher.compile, Matcher.compileWith, regex, read, Except.toOption]
      simp only [Filter.accepts, Matcher.accepts, needle]

/-! ### Adding a filter -/

/-- The selected tracks that a filter would hide. -/
def losing (list : TrackList) (filter : Filter) : List Track :=
  list.visibleTracks.filter fun track => track.selected && !filter.accepts track

/-- What a new filter leaves of a list whose totals are exact under some condition. -/
structure Narrowed (exact : Prop) (list : TrackList) (filter : Filter) (added : TrackList) :
    Prop where
  filters : added.filters = list.filters ++ [filter]
  visible : added.visible = list.visible.filter fun canonical =>
    list.tracks[canonical]?.any filter.accepts
  tracks : ∀ canonical, added.tracks[canonical]? = list.tracks[canonical]?.map fun track =>
    if canonical ∈ list.visible ∧ canonical ∉ added.visible then track.deselected else track
  totalSeconds : added.totalSeconds = list.totalSeconds
  selectedCount : list.selectedCount = added.selectedCount + (list.losing filter).length
  selectedSeconds : exact → list.selectedSeconds =
    added.selectedSeconds + ((list.losing filter).map Track.seconds).sum

/-- The selected tracks that a rebuild hides once a filter is added are those that it refuses. -/
theorem Coherent.hiddenBy_extended (coherent : list.Coherent) (accounted : list.Accounted exact)
    (pattern : String) (mask : FieldMask) :
    (list.extended pattern mask).hiddenBy = list.losing (list.newFilter pattern mask) := by
  rw [losing, coherent.visibleTracks_eq, List.filter_filter]
  apply List.filter_congr
  intro track member
  rw [passes_extended]
  cases marked : track.selected with
  | false => rfl
  | true =>
    have passing := accounted.passing track member marked
    simp only [passing, Bool.true_and, Bool.and_true]

/-- A new filter leaves those visible that it accepts. -/
theorem Coherent.visible_addFilter (coherent : list.Coherent) (pattern : String)
    (mask : FieldMask) :
    (list.addFilter pattern mask).1.visible = list.visible.filter fun canonical =>
      list.tracks[canonical]?.any (list.newFilter pattern mask).accepts := by
  have scanned : (list.addFilter pattern mask).1.visible =
      (list.extended pattern mask).passingIndices := rfl
  have same : (list.extended pattern mask).tracks = list.tracks := rfl
  rw [scanned, coherent.visible_eq, passingIndices, passingIndices, List.filter_filter, same]
  apply List.filter_congr
  intro canonical _
  cases list.tracks[canonical]? with
  | none => rfl
  | some track => simp only [Option.any_some, passes_extended, Bool.and_comm]

/-- A new filter deselects what it hides and changes nothing else about the tracks. -/
theorem Coherent.tracks_addFilter (coherent : list.Coherent) (accounted : list.Accounted exact)
    (pattern : String) (mask : FieldMask) (canonical : Nat) :
    (list.addFilter pattern mask).1.tracks[canonical]? =
      list.tracks[canonical]?.map fun track =>
        if canonical ∈ list.visible ∧ canonical ∉ (list.addFilter pattern mask).1.visible then
          track.deselected
        else track := by
  have rebuilt : (list.addFilter pattern mask).1.tracks =
      list.tracks.map (list.extended pattern mask).kept := rfl
  rw [rebuilt, List.getElem?_map, coherent.visible_addFilter]
  cases found : list.tracks[canonical]? with
  | none => rfl
  | some track =>
    have shown : canonical ∈ list.visible ↔ list.passes track = true := by
      rw [coherent.mem_visible]
      simp only [found, Option.some.injEq, exists_eq_left']
    simp only [Option.map_some, List.mem_filter, found, Option.any_some, shown]
    cases passing : list.passes track with
    | true =>
      rw [kept, passes_extended, passing]
      cases (list.newFilter pattern mask).accepts track <;> simp
    | false =>
      -- The track is hidden already, so it is not selected.
      have hidden : track.selected = true → (list.extended pattern mask).passes track = true := by
        intro marked
        have passes := accounted.passing track (List.mem_of_getElem? found) marked
        rw [passing] at passes
        cases passes
      rw [kept_eq_self _ hidden]
      simp

/-- What a new filter leaves of a list whose visible sequence and totals are right. -/
theorem Coherent.narrowed (coherent : list.Coherent) (accounted : list.Accounted exact)
    (pattern : String) (mask : FieldMask) :
    list.Narrowed exact (list.newFilter pattern mask) (list.addFilter pattern mask).1 := by
  have counts : (list.extended pattern mask).Counts exact list.tracks :=
    ⟨accounted.counts.totalSeconds, accounted.counts.selectedCount,
      accounted.counts.selectedSeconds⟩
  obtain ⟨count, seconds⟩ := counts.rebuild_hiddenBy list.visible.isEmpty
  rw [coherent.hiddenBy_extended accounted] at count seconds
  exact ⟨rfl, coherent.visible_addFilter pattern mask,
    coherent.tracks_addFilter accounted pattern mask, rfl, count, seconds⟩

/-- A filter that accepts nothing leaves nothing visible and nothing selected. -/
theorem Narrowed.of_refusing {later : Prop} {filter : Filter} {added : TrackList}
    (narrowed : list.Narrowed exact filter added) (accounted : added.Accounted later)
    (refuses : ∀ track, filter.accepts track = false) :
    added.visible = [] ∧ added.selectedCount = 0 ∧ added.selectedSeconds = 0 ∧
      ∀ track ∈ added.tracks, track.selected = false := by
  have unmarked : ∀ track ∈ added.tracks, track.selected = false := by
    intro track member
    by_contra marked
    have passing := accounted.passing track member (by simpa using marked)
    rw [passes, narrowed.filters, List.all_append, List.all_cons, refuses, Bool.false_and,
      Bool.and_false] at passing
    cases passing
  have none_selected : added.tracks.filter (·.selected) = [] := by
    rw [List.filter_eq_nil_iff]
    intro track member
    simp [unmarked track member]
  refine ⟨?_, ?_, ?_, unmarked⟩
  · rw [narrowed.visible, List.filter_eq_nil_iff]
    intro canonical _
    cases list.tracks[canonical]? with
    | none => exact Bool.false_ne_true
    | some track => simp only [Option.any_some, refuses, Bool.false_eq_true, not_false_eq_true]
  · rw [accounted.counts.selectedCount, none_selected, List.length_nil]
  · have selected := accounted.counts.selectedSeconds
    rw [none_selected] at selected
    exact selected.eq_zero

/-! ### Removing filters -/

/-- Fewer filters leave all tracks as they are. -/
theorem Accounted.narrow (accounted : list.Accounted exact) {filters : List Filter}
    (fewer : filters.Sublist list.filters) (wasEmpty : Bool) :
    SameTracks list ({ list with filters := filters }.rebuild wasEmpty) := by
  rw [rebuild_of_passing]
  · exact ⟨rfl, rfl, rfl, rfl⟩
  · intro track member marked
    exact passes_of_sublist fewer (accounted.passing track member marked)

theorem Accounted.removeFilter (accounted : list.Accounted exact) (handle : Nat) :
    SameTracks list (list.removeFilter handle).1 := by
  unfold TrackList.removeFilter
  split
  · exact accounted.narrow (List.eraseIdx_sublist _ _) _
  · exact ⟨rfl, rfl, rfl, rfl⟩

theorem Accounted.popFilter (accounted : list.Accounted exact) {result : TrackList × Filter}
    (popped : list.popFilter? = some result) : SameTracks list result.1 := by
  obtain ⟨filter, _, rfl⟩ := Option.map_eq_some_iff.mp popped
  exact accounted.narrow (List.dropLast_sublist _) _

theorem Accounted.clearFilters (accounted : list.Accounted exact) :
    SameTracks list list.clearFilters := by
  unfold TrackList.clearFilters
  split
  · exact ⟨rfl, rfl, rfl, rfl⟩
  · exact accounted.narrow (List.nil_sublist _) _

/-! ### Handles -/

/-- A handle that no active filter has removes nothing. -/
theorem removeFilter_unknown {handle : Nat}
    (unknown : ∀ filter ∈ list.filters, filter.handle ≠ handle) :
    list.removeFilter handle = (list, false) := by
  have absent : list.filters.findIdx? (fun filter => filter.handle == handle) = none := by
    rw [List.findIdx?_eq_none_iff]
    intro filter active
    exact beq_false_of_ne (unknown filter active)
  rw [removeFilter, absent]

/-- The handles of the active filters ascend, and the next one is above them all. -/
structure HandlesInOrder (list : TrackList) : Prop where
  ascending : list.filters.Pairwise fun earlier later => earlier.handle < later.handle
  below : ∀ filter ∈ list.filters, filter.handle < list.nextHandle

namespace HandlesInOrder

/-- With some of the filters. -/
theorem narrow (ordered : list.HandlesInOrder) {filters : List Filter}
    (fewer : filters.Sublist list.filters) : { list with filters := filters }.HandlesInOrder where
  ascending := ordered.ascending.sublist fewer
  below filter active := ordered.below filter (fewer.mem active)

/-- With one more filter. -/
theorem extend (ordered : list.HandlesInOrder) (pattern : String) (mask : FieldMask) :
    (list.extended pattern mask).HandlesInOrder where
  ascending := by
    refine List.pairwise_append.mpr ⟨ordered.ascending, List.pairwise_singleton _ _, ?_⟩
    intro filter active last new
    cases List.mem_singleton.mp new
    exact ordered.below filter active
  below := by
    intro filter active
    rcases List.mem_append.mp active with old | new
    · exact Nat.lt_succ_of_lt (ordered.below filter old)
    · cases List.mem_singleton.mp new
      exact Nat.lt_succ_self _

/-- Lists with the same filters and the same next handle have their handles in the same order. -/
theorem congr {start : TrackList} (ordered : start.HandlesInOrder)
    (same : list.filters = start.filters ∧ list.nextHandle = start.nextHandle) :
    list.HandlesInOrder := by
  obtain ⟨filters, nextHandle⟩ := same
  constructor
  · rw [filters]
    exact ordered.ascending
  · rw [filters, nextHandle]
    exact ordered.below

/-- An operation keeps the handles in order. -/
theorem outcome {operation : Operation} {start : TrackList} (ordered : start.HandlesInOrder)
    (outcome : Outcome operation start list) : list.HandlesInOrder := by
  cases outcome with
  | stage stage => exact ordered.congr stage.filters_eq
  | place stage _ =>
    have same := ordered.congr stage.filters_eq
    exact ⟨same.ascending, same.below⟩
  | rebuild draft =>
    cases draft with
    | load | reorder => exact ⟨ordered.ascending, ordered.below⟩
    | narrow fewer =>
      have narrowed := ordered.narrow fewer
      exact ⟨narrowed.ascending, narrowed.below⟩
    | @extend pattern mask =>
      have extended := ordered.extend pattern mask
      exact ⟨extended.ascending, extended.below⟩

/-- Every run keeps the handles in order. -/
theorem run (operations : List Operation) : (TrackList.run operations).HandlesInOrder :=
  run_induction ⟨.nil, fun _ active => nomatch active⟩
    (fun list operation ordered => ordered.outcome (outcome_perform operation list)) operations

/-- No filter is active twice. -/
theorem nodup_filters (ordered : list.HandlesInOrder) : list.filters.Nodup :=
  ordered.ascending.imp fun below => ne_of_apply_ne Filter.handle (Nat.ne_of_lt below)

/-- The handle of an active filter removes that filter and no other. -/
theorem removeFilter_active (ordered : list.HandlesInOrder) {before after : List Filter}
    {filter : Filter} (active : list.filters = before ++ filter :: after) :
    list.removeFilter filter.handle =
      ({ list with filters := before ++ after }.rebuild list.visible.isEmpty, true) := by
  have ascending := ordered.ascending
  rw [active, List.pairwise_append] at ascending
  have earlier : before.findIdx? (fun other => other.handle == filter.handle) = none := by
    rw [List.findIdx?_eq_none_iff]
    intro other member
    exact beq_false_of_ne (Nat.ne_of_lt (ascending.2.2 other member filter List.mem_cons_self))
  have found : list.filters.findIdx? (fun other => other.handle == filter.handle) =
      some before.length := by
    rw [active, List.findIdx?_append, earlier]
    simp [List.findIdx?_cons]
  have rest : list.filters.eraseIdx before.length = before ++ after := by
    rw [active, List.eraseIdx_append_of_length_le (Nat.le_refl _), Nat.sub_self,
      List.eraseIdx_cons_zero]
  rw [removeFilter, found]
  simp only [rest]

/-- The handle of a new filter removes that filter and no other. -/
theorem removeFilter_addFilter (ordered : list.HandlesInOrder) (pattern : String)
    (mask : FieldMask) :
    let added := (list.addFilter pattern mask).1
    added.removeFilter (list.addFilter pattern mask).2 =
      ({ added with filters := list.filters }.rebuild added.visible.isEmpty, true) := by
  intro added
  have extended := ordered.extend pattern mask
  have orderedAfter : added.HandlesInOrder := ⟨extended.ascending, extended.below⟩
  have removed := @removeFilter_active added orderedAfter list.filters [] _ rfl
  rw [List.append_nil] at removed
  exact removed

end HandlesInOrder

/-- Removing the filter that was added last shows again what was shown before it. -/
theorem Coherent.visible_removeFilter (coherent : list.Coherent) (ordered : list.HandlesInOrder)
    (pattern : String) (mask : FieldMask) :
    let added := (list.addFilter pattern mask).1
    (added.removeFilter (list.addFilter pattern mask).2).1.visible = list.visible := by
  intro added
  rw [ordered.removeFilter_addFilter pattern mask, coherent.visible_eq]
  have unmarked : added.tracks.map Track.deselected = list.tracks.map Track.deselected := by
    have rebuilt : added.tracks = list.tracks.map (list.extended pattern mask).kept := rfl
    rw [rebuilt, List.map_map]
    exact List.map_congr_left fun track _ => (list.extended pattern mask).deselected_kept track
  exact passingIndices_congr rfl unmarked

/-! ### The selection of a run -/

/-- On every list that a run leads to, a new filter deselects exactly the visible tracks that it
hides, and the number of selected tracks goes down by those of them that were selected; so do the
seconds of the selection, if the durations of the tracks fit into 64 bits together all along the
run.  A pattern that is refused hides all tracks.  Removing filters changes no track and no total.
Removing a filter by its handle after adding it restores the filters and the visible sequence, while
the tracks stay as the filter left them. -/
theorem filters_selection (operations : List Operation) (pattern : String) (mask : FieldMask) :
    let list := run operations
    let filter := list.newFilter pattern mask
    let added := (list.addFilter pattern mask).1
    let removed := added.removeFilter (list.addFilter pattern mask).2
    list.Narrowed (Fits operations) filter added ∧
      (∀ failure, list.checkPattern pattern = .error failure →
        added.visible = [] ∧ added.selectedCount = 0 ∧ added.selectedSeconds = 0 ∧
          ∀ track ∈ added.tracks, track.selected = false) ∧
      (∀ handle, SameTracks list (list.removeFilter handle).1) ∧
      (∀ result, list.popFilter? = some result → SameTracks list result.1) ∧
      SameTracks list list.clearFilters ∧
      removed.2 = true ∧ removed.1.filters = list.filters ∧
        removed.1.visible = list.visible ∧ SameTracks added removed.1 := by
  have coherent := Coherent.run operations
  have accounted := Accounted.run operations
  have ordered := HandlesInOrder.run operations
  have accountedAfter := Accounted.run (operations ++ [.addFilter pattern mask])
  rw [run_concat] at accountedAfter
  have narrowed := coherent.narrowed accounted pattern mask
  have removed := ordered.removeFilter_addFilter pattern mask
  dsimp only
  refine ⟨narrowed, ?_, accounted.removeFilter, fun _ => accounted.popFilter,
    accounted.clearFilters, by rw [removed], by rw [removed]; rfl,
    coherent.visible_removeFilter ordered pattern mask, accountedAfter.removeFilter _⟩
  intro failure refused
  exact narrowed.of_refusing accountedAfter (newFilter_accepts_of_refused refused mask)

/-- A run that selects a track under a filter and lets patterns be expressions. -/
def filteredRun : List Operation :=
  [.append { file := "first.ogg", time := some 2 },
    .append { file := "second.ogg", time := some 3 },
    .addFilter "" .all,
    .setSelected 1 true,
    .setRegex true]

/-- Such a list with one more filter, whose pattern is refused, and with one less. -/
theorem filters_selection_filteredRun :
    let list := run filteredRun
    let added := (list.addFilter "(" .all).1
    Fits filteredRun ∧ (∃ failure, list.checkPattern "(" = .error failure) ∧
      list.selectedSeconds = 3 ∧
      list.selectedSeconds = added.selectedSeconds +
        ((list.losing (list.newFilter "(" .all)).map Track.seconds).sum ∧
      added.visible = [] ∧ added.selectedSeconds = 0 ∧
      (added.removeFilter (list.addFilter "(" .all).2).1.visible = [0, 1] ∧
      ∃ result, list.popFilter? = some result ∧ result.1.selectedSeconds = 3 := by
  have fits : Fits filteredRun := .of_inits (by decide)
  obtain ⟨narrowed, refused, _, popped, _, _, _, restored, _⟩ :=
    filters_selection filteredRun "(" .all
  obtain ⟨hidden, _, unselected, _⟩ := refused (.invalidPattern "(" .unclosedGroup) rfl
  have selected : (run filteredRun).selectedSeconds = 3 := by decide
  have shown : (run filteredRun).visible = [0, 1] := by decide
  exact ⟨fits, ⟨_, rfl⟩, selected, narrowed.selectedSeconds fits, hidden, unselected,
    restored.trans shown, _, rfl, (popped _ rfl).selectedSeconds.trans selected⟩

end TrackBrowser.TrackList
