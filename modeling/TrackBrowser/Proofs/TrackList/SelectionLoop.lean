/-
Module: TrackBrowser.Proofs.TrackList.SelectionLoop
Purpose: Selecting several tracks is one pass over the visible tracks, with right totals.
-/
import TrackBrowser.Proofs.TrackList.Selecting
import TrackBrowser.Proofs.TrackList.Totals

/-!
A pass goes through visible indices in order and acts on each track that it wants, deciding when it
comes to it.  It does not go by the selection, which it changes itself.  Both ways of selecting
several tracks are such passes, and `Selects` says what a pass leaves behind: the wanted tracks are
acted on once, all others are as before, and the totals and the count of changes are right.  What
toggling changes, toggling again changes back.
-/

namespace TrackBrowser

/-! ### Values of tracks -/

/-- Whether a track has a value in one of the fields of a mask, whatever its case.  Every field has
the empty value. -/
def Track.hasValue (pattern : String) (mask : FieldMask) (track : Track) : Bool :=
  Field.all.any fun field =>
    mask.contains field && (pattern.isEmpty || foldText (track.text field) == foldText pattern)

/-- An exact text pattern matches the tracks that have its value. -/
theorem Matcher.accepts_eq_hasValue (pattern : String) (mask : FieldMask) (track : Track) :
    (Matcher.compile pattern { exact := true }).accepts track mask =
      track.hasValue pattern mask := by
  have needle : (Matcher.compile pattern { exact := true }).needle = .text (foldText pattern) := rfl
  have negate : (Matcher.compile pattern { exact := true }).options.negate = false := rfl
  simp only [Matcher.accepts, needle, Matcher.passes_exact pattern _ { exact := true } rfl rfl,
    negate, Bool.bne_false, List.any_filter, Track.hasValue]

@[simp] theorem Track.hasValue_deselected (pattern : String) (mask : FieldMask) (track : Track) :
    track.deselected.hasValue pattern mask = track.hasValue pattern mask := by
  simp only [hasValue, text_deselected]

/-- Toggling a selection twice leaves the track as it was. -/
theorem SelectAction.marked_marked_toggle (track : Track) :
    SelectAction.toggle.marked (SelectAction.toggle.marked track) = track := by
  simp only [marked, apply, Bool.not_not]

namespace TrackList

/-! ### A pass -/

/-- One pass over visible indices that acts on each wanted track as it comes to it, and counts the
changes. -/
def selectPass (wanted : Track → Bool) (action : SelectAction) :
    List Nat → TrackList → TrackList × Nat
  | [], list => (list, 0)
  | index :: rest, list =>
    if (list.get? index).any wanted then
      let next := list.select index action
      let after := selectPass wanted action rest next.1
      (after.1, next.2.toNat + after.2)
    else selectPass wanted action rest list

/-- The second list is the first one again, selections and their count included, but maybe with
other walks; and its selected tracks last as long where that has to be exact. -/
structure Restored (exact : Prop) (before after : TrackList) : Prop where
  tracks : after.tracks = before.tracks
  rest : after.unmarked = before.unmarked
  selectedCount : after.selectedCount = before.selectedCount
  selectedSeconds : exact → after.selectedSeconds = before.selectedSeconds

section Pass

variable {exact : Prop} {list : TrackList} {wanted : Track → Bool} {first : Nat}
  {action : SelectAction}

/-- No action of a pass decides which tracks it wants later. -/
theorem selectPass_eq (blind : ∀ track, wanted track.deselected = wanted track)
    (indices : List Nat) (list : TrackList) :
    selectPass wanted action indices list =
      list.selectEach (indices.filter fun index => (list.get? index).any wanted) action := by
  induction indices generalizing list with
  | nil => rfl
  | cons index rest ih =>
    rw [selectPass]
    split
    · rename_i here
      have marks : (list.select index action).1.unmarked = list.unmarked :=
        list.survivesMarking_unmarked.select rfl index action
      have later := List.filter_congr (l := rest) fun other _ =>
        any_get?_of_unmarked marks blind other
      simp only [List.filter_cons, if_pos here, selectEach_cons, ih, later]
    · rename_i passed
      rw [ih, List.filter_cons, if_neg passed]

/-- Acting on visible tracks keeps the totals right. -/
theorem Accounted.selectEach (accounted : list.Accounted exact) (coherent : list.Coherent)
    (fits : exact → (list.tracks.map Track.seconds).sum < countLimit)
    (indices : List Nat) (action : SelectAction) :
    (list.selectEach indices action).1.Accounted exact := by
  have stage : Stage list (list.selectEach indices action).1 :=
    (Marking.survives.selectEach .refl indices action).stage
  exact accounted.stage coherent fits stage

/-- What a pass over the visible tracks from an index on leaves behind. -/
structure Selects (exact : Prop) (list : TrackList) (wanted : Track → Bool) (first : Nat)
    (action : SelectAction) (result : TrackList × Nat) : Prop where
  pass : result = selectPass wanted action (List.range' first (list.size - first)) list
  tracks : ∀ canonical, result.1.tracks[canonical]? = list.tracks[canonical]?.map fun track =>
    if canonical ∈ list.visible.drop first ∧ wanted track = true then action.marked track
    else track
  changed : result.2 = list.changedFlags result.1
  rest : result.1.unmarked = list.unmarked
  counts : result.1.Counts exact result.1.tracks
  past : list.size ≤ first → result = (list, 0)

/-- Acting on the wanted tracks from an index on is a pass. -/
theorem Coherent.selects (coherent : list.Coherent) (accounted : list.Accounted exact)
    (fits : exact → (list.tracks.map Track.seconds).sum < countLimit)
    (blind : ∀ track, wanted track.deselected = wanted track) (first : Nat)
    (action : SelectAction) :
    list.Selects exact wanted first action
      (list.selectEach ((List.range' first (list.size - first)).filter fun index =>
        (list.get? index).any wanted) action) := by
  have chosen := list.canonicalIndices_filter wanted first
  have distinct : list.visible.Nodup := coherent.ascending.imp Nat.ne_of_lt
  have once : ((list.visible.drop first).filter fun canonical =>
      list.tracks[canonical]?.any wanted).Nodup :=
    (distinct.sublist (List.drop_sublist first _)).filter _
  rw [← chosen] at once
  refine ⟨(selectPass_eq blind _ list).symm, ?_, selectEach_count once action,
    list.survivesMarking_unmarked.selectEach rfl _ action, ?_, ?_⟩
  · intro canonical
    rw [(selectEach_once action once).1, chosen]
    cases found : list.tracks[canonical]? with
    | none => rfl
    | some track => simp only [Option.map_some, List.mem_filter, found, Option.any_some]
  · exact (accounted.selectEach coherent fits _ action).counts
  · intro past
    rw [Nat.sub_eq_zero_of_le past]
    rfl

/-- A second pass that toggles undoes the first. -/
theorem Selects.toggle_toggle {once twice : TrackList × Nat}
    (there : list.Selects exact wanted first .toggle once)
    (back : once.1.Selects exact wanted first .toggle twice)
    (blind : ∀ track, wanted track.deselected = wanted track)
    (counts : list.Counts exact list.tracks) : list.Restored exact twice.1 := by
  have visible : once.1.visible = list.visible := by
    have same := congrArg TrackList.visible there.rest
    exact same
  have toggled : ∀ track, wanted (SelectAction.toggle.marked track) = wanted track := by
    intro track
    rw [← blind, ← blind track, SelectAction.marked, Track.deselected_withSelection]
  have tracks : twice.1.tracks = list.tracks := by
    apply List.ext_getElem?
    intro canonical
    rw [back.tracks, there.tracks, visible, Option.map_map]
    cases list.tracks[canonical]? with
    | none => rfl
    | some track =>
      by_cases acted : canonical ∈ list.visible.drop first ∧ wanted track = true
      · simp only [Option.map_some, Function.comp_apply, if_pos acted, toggled,
          SelectAction.marked_marked_toggle]
      · simp only [Option.map_some, Function.comp_apply, if_neg acted]
  have again := back.counts
  rw [tracks] at again
  exact ⟨tracks, back.rest.trans there.rest,
    again.selectedCount.trans counts.selectedCount.symm,
    fun holds => (again.selectedSeconds.eq holds).trans (counts.selectedSeconds.eq holds).symm⟩

end Pass

/-! ### Selecting by value -/

section Matching

variable (list : TrackList) (pattern : String) (mask : FieldMask) (first : Nat)
  (action : SelectAction)

/-- The hits of an exact text pattern are the tracks that have its value. -/
theorem hits_exact : list.hits (Matcher.compile pattern { exact := true }) mask =
    fun index => (list.get? index).any (Track.hasValue pattern mask) := by
  funext index
  simp only [hits, Matcher.accepts_eq_hasValue]

/-- The loop that selects by value ends, and in one way only: it has acted on the visible indices
from `first` on that have the value, each once and in order. -/
theorem chase_selectMatching (acted : List Nat) (after : TrackList × Nat) :
    Chase (Matcher.compile pattern { exact := true }) mask action first list acted after ↔
      acted = ((List.range' first (list.size - first)).filter fun index =>
        (list.get? index).any (Track.hasValue pattern mask)) ∧
        after = list.selectMatching pattern mask first action := by
  have ends := list.chase_hits (Matcher.compile pattern { exact := true }) mask action first
  rw [selectMatching_eq]
  rw [hits_exact] at ends ⊢
  constructor
  · intro chase
    exact chase.unique ends
  · rintro ⟨rfl, rfl⟩
    exact ends

end Matching

section Passes

variable {exact : Prop} {list : TrackList} (coherent : list.Coherent)
  (accounted : list.Accounted exact)
  (fits : exact → (list.tracks.map Track.seconds).sum < countLimit)
  (pattern : String) (mask : FieldMask) (first : Nat) (action : SelectAction)

include coherent accounted fits

/-- Selecting by value is a pass. -/
theorem selectMatching_selects : list.Selects exact (Track.hasValue pattern mask) first action
    (list.selectMatching pattern mask first action) := by
  rw [selectMatching_eq, hits_exact]
  exact coherent.selects accounted fits (Track.hasValue_deselected pattern mask) first action

/-- Selecting all visible tracks is a pass. -/
theorem selectAll_selects :
    list.Selects exact (fun _ => true) 0 action (list.selectAll action) := by
  have all : ((List.range' 0 (list.size - 0)).filter fun index =>
      (list.get? index).any fun _ => true) = List.range list.size := by
    rw [Nat.sub_zero, ← List.range_eq_range', List.filter_eq_self]
    intro index inside
    obtain ⟨track, found⟩ := coherent.exists_get? (List.mem_range.mp inside)
    rw [found, Option.any_some]
  rw [selectAll, ← all]
  exact coherent.selects accounted fits (fun _ => rfl) 0 action

/-- Selecting by value twice, toggling, changes nothing. -/
theorem selectMatching_toggle_toggle :
    let once := (list.selectMatching pattern mask first .toggle).1
    list.Restored exact (once.selectMatching pattern mask first .toggle).1 := by
  intro once
  have marks : Stage list once := by
    have each := selectMatching_eq list pattern mask first .toggle
    rw [show once = _ from congrArg Prod.fst each]
    exact (Marking.survives.selectEach .refl _ .toggle).stage
  have there := selectMatching_selects coherent accounted fits pattern mask first .toggle
  have back := selectMatching_selects (coherent.stage marks) (accounted.stage coherent fits marks)
    (fun holds => marks.sum_seconds_le.trans_lt (fits holds)) pattern mask first .toggle
  exact there.toggle_toggle back (Track.hasValue_deselected pattern mask) accounted.counts

/-- Selecting all tracks twice, toggling, changes nothing. -/
theorem selectAll_toggle_toggle :
    list.Restored exact ((list.selectAll .toggle).1.selectAll .toggle).1 := by
  have marks : Stage list (list.selectAll .toggle).1 :=
    (Marking.survives.selectEach .refl _ .toggle).stage
  have there := selectAll_selects coherent accounted fits .toggle
  have back := selectAll_selects (coherent.stage marks) (accounted.stage coherent fits marks)
    (fun holds => marks.sum_seconds_le.trans_lt (fits holds)) .toggle
  exact there.toggle_toggle back (fun _ => rfl) accounted.counts

end Passes

/-- On every list that a run leads to, selecting by value ends: it acts on the visible tracks from
an index on that have the value, on each once and in order, as a single pass over them would.  Other
tracks are as before, and the count is the number of changed selections, none when the index is past
the end.  Selecting all tracks is the same pass over all visible tracks, and toggling twice restores
each selection, either way.  The number of selected tracks is right, and restored.  So is their
duration, as long as the durations of the tracks fit into 64 bits together. -/
theorem selectMatching_pass (operations : List Operation) (pattern : String) (mask : FieldMask)
    (first : Nat) (action : SelectAction) :
    let list := run operations
    let wanted := Track.hasValue pattern mask
    let exact := Fits operations
    let once := (list.selectMatching pattern mask first .toggle).1
    let twice := (once.selectMatching pattern mask first .toggle).1
    let allOnce := (list.selectAll .toggle).1
    let allTwice := (allOnce.selectAll .toggle).1
    (∀ acted after,
      Chase (Matcher.compile pattern { exact := true }) mask action first list acted after ↔
        acted = ((List.range' first (list.size - first)).filter fun index =>
          (list.get? index).any wanted) ∧
          after = list.selectMatching pattern mask first action) ∧
      list.Selects exact wanted first action (list.selectMatching pattern mask first action) ∧
      list.Restored exact twice ∧
      list.Selects exact (fun _ => true) 0 action (list.selectAll action) ∧
      list.Restored exact allTwice := by
  have coherent := Coherent.run operations
  have accounted := Accounted.run operations
  have fits (exact : Fits operations) := exact operations (List.prefix_refl _)
  exact ⟨chase_selectMatching (run operations) pattern mask first action,
    selectMatching_selects coherent accounted fits pattern mask first action,
    selectMatching_toggle_toggle coherent accounted fits pattern mask first,
    selectAll_selects coherent accounted fits action,
    selectAll_toggle_toggle coherent accounted fits⟩

/-- Three tracks, of which a filter hides the second and the last is selected. -/
def sparseRun : List Operation :=
  [.append { file := "first.ogg", artist := "Ada", time := some 2 },
    .append { file := "second.ogg", artist := "Bo", time := some 3 },
    .append { file := "third.ogg", artist := "Ada", time := some 5, selected := true },
    .addFilter "ada" .all]

/-- Toggling by value there selects the one and deselects the other, and toggling again restores
both. -/
theorem selectMatching_pass_sparseRun :
    let list := run sparseRun
    let once := list.selectMatching "ADA" Field.artist.mask 0 .toggle
    let twice := once.1.selectMatching "ADA" Field.artist.mask 0 .toggle
    Fits sparseRun ∧ once.2 = 2 ∧ once.1.selectedSeconds = 2 ∧ twice.1.tracks = list.tracks ∧
      twice.1.selectedCount = 1 ∧ twice.1.selectedSeconds = 5 := by
  intro list once twice
  have fits : Fits sparseRun := .of_inits (by decide +kernel)
  obtain ⟨_, pass, restored, _⟩ := selectMatching_pass sparseRun "ADA" Field.artist.mask 0 .toggle
  have changed : once.2 = 2 := by decide +kernel
  have seconds : once.1.selectedSeconds = 2 := by decide +kernel
  have count : list.selectedCount = 1 := by decide +kernel
  have before : list.selectedSeconds = 5 := by decide +kernel
  exact ⟨fits, changed, seconds, restored.tracks, restored.selectedCount.trans count,
    (restored.selectedSeconds fits).trans before⟩

end TrackList

end TrackBrowser
