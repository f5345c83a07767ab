/-
Module: TrackBrowser.Proofs.TrackList.Selecting
Purpose: What selecting several tracks does to each of them, and what it counts.
-/
import TrackBrowser.Proofs.Matching
import TrackBrowser.Proofs.TrackList.Arc
import TrackBrowser.Proofs.TrackList.Handling
import TrackBrowser.Proofs.TrackList.VisibleSequence

/-!
Selecting the matching tracks searches for one hit after the other and acts on each.  No action
makes a later search end elsewhere, so this is the same as acting on all hits in turn, which
`selectMatching_eq` says.  Tracks that are acted on at most once each end up with their selection
after the action; all others are as before, and the count is the number of changed selections.
-/

namespace TrackBrowser

/-- A track after an action on its selection. -/
def SelectAction.marked (action : SelectAction) (track : Track) : Track :=
  { track with selected := action.apply track.selected }

/-- Whether an action changes the selection of a track. -/
def SelectAction.changes (action : SelectAction) (track : Track) : Bool :=
  action.apply track.selected != track.selected

namespace TrackList

/-! ### Single tracks -/

section Select

variable {list : TrackList} {index canonical : Nat} (action : SelectAction)

theorem select_of_hidden (outside : list.visible[index]? = none) :
    list.select index action = (list, false) := by
  simp only [select, get?, outside, Option.bind_none]

/-- An action on a visible track counts if it changes the selection. -/
theorem select_changes (shown : list.visible[index]? = some canonical) :
    (list.select index action).2 = list.tracks[canonical]?.any action.changes := by
  cases found : list.tracks[canonical]? with
  | none => simp only [select, get?, shown, Option.bind_some, found, Option.any_none]
  | some track =>
    simp only [select, setSelected, get?, shown, Option.bind_some, found, Option.any_some,
      SelectAction.changes]
    split <;> rename_i same
    · simp [← same]
    · simp [Ne.symm same]

/-- An action on a visible track changes no other track. -/
theorem select_tracks (shown : list.visible[index]? = some canonical) (other : Nat) :
    (list.select index action).1.tracks[other]? =
      list.tracks[other]?.map fun track =>
        if other = canonical then action.marked track else track := by
  by_cases here : other = canonical
  · subst here
    cases found : list.tracks[other]? with
    | none =>
      simp only [select, get?, shown, Option.bind_some, found, Option.map_none]
    | some track =>
      have inside := (List.getElem?_eq_some_iff.mp found).1
      simp only [select, setSelected, get?, shown, Option.bind_some, found, Option.map_some,
        if_true, SelectAction.marked]
      split <;> rename_i same
      · rw [found, ← same]
      · rw [flip_tracks, List.getElem?_set_self inside]
  · simp only [if_neg here, Option.map_id']
    simp only [select, setSelected, get?, shown, Option.bind_some]
    split
    · split
      · rfl
      · split
        · rfl
        · rw [flip_tracks, List.getElem?_set_ne (Ne.symm here)]
    · rfl

end Select

/-! ### Several tracks -/

/-- The canonical indices of the tracks at some visible indices. -/
def canonicalIndices (list : TrackList) (indices : List Nat) : List Nat :=
  indices.filterMap fun index => list.visible[index]?

/-- The canonical indices of the visible tracks of some kind, from a visible index on. -/
theorem canonicalIndices_filter (list : TrackList) (kind : Track → Bool) (first : Nat) :
    list.canonicalIndices ((List.range' first (list.size - first)).filter fun index =>
      (list.get? index).any kind) =
      (list.visible.drop first).filter fun canonical => list.tracks[canonical]?.any kind := by
  have shown : (List.range' first (list.size - first)).filterMap
      (fun index => list.visible[index]?) = list.visible.drop first := by
    rw [filterMap_range'_getElem?, List.take_of_length_le]
    rw [List.length_drop, size]
  rw [← shown, List.filter_filterMap, canonicalIndices, List.filterMap_filter]
  congr 1
  funext index
  rw [get?]
  cases list.visible[index]? with
  | none => simp
  | some canonical => simp [Option.filter]

/-- There is a canonical index for each visible one. -/
theorem length_canonicalIndices {list : TrackList} {indices : List Nat}
    (inside : ∀ index ∈ indices, index < list.size) :
    (list.canonicalIndices indices).length = indices.length := by
  rw [canonicalIndices, List.length_filterMap_eq_countP, List.countP_eq_length]
  intro index member
  have within : index < list.visible.length := inside index member
  rw [List.getElem?_eq_getElem within, Option.isSome_some]

section SelectEach

variable {list : TrackList} (action : SelectAction)

/-- Acting on one more track, and counting it if that changes its selection. -/
def selectNext (action : SelectAction) (state : TrackList × Nat) (index : Nat) :
    TrackList × Nat :=
  ((state.1.select index action).1, state.2 + (state.1.select index action).2.toNat)

theorem selectEach_eq_foldl (list : TrackList) (indices : List Nat) :
    list.selectEach indices action = indices.foldl (selectNext action) (list, 0) := rfl

theorem selectEach_cons (list : TrackList) (index : Nat) (indices : List Nat) :
    list.selectEach (index :: indices) action =
      let next := list.select index action
      let rest := next.1.selectEach indices action
      (rest.1, next.2.toNat + rest.2) := by
  -- Earlier changes are counted on top of those of the rest.
  have shifted : ∀ (indices : List Nat) (list : TrackList) (changed : Nat),
      indices.foldl (selectNext action) (list, changed) =
        ((list.selectEach indices action).1, changed + (list.selectEach indices action).2) := by
    intro indices
    induction indices with
    | nil =>
      intro list changed
      rfl
    | cons index indices ih =>
      intro list changed
      rw [selectEach_eq_foldl, List.foldl_cons, List.foldl_cons, selectNext, selectNext, ih, ih]
      simp only [Nat.zero_add, Nat.add_assoc]
  rw [selectEach_eq_foldl, List.foldl_cons, selectNext, shifted]
  simp only [Nat.zero_add]

/-- Acting on tracks leaves the visible sequence as it is. -/
theorem select_visible (list : TrackList) (index : Nat) :
    (list.select index action).1.visible = list.visible := by
  have same : (list.select index action).1.unmarked = list.unmarked :=
    list.survivesMarking_unmarked.select rfl index action
  have visible := congrArg TrackList.visible same
  exact visible

/-- Where no track is acted on twice, each one that is acted on has its selection after the action,
every other one is as before, and the count is the number of selections that the action changes. -/
theorem selectEach_once {indices : List Nat} (once : (list.canonicalIndices indices).Nodup) :
    (∀ canonical, (list.selectEach indices action).1.tracks[canonical]? =
      list.tracks[canonical]?.map fun track =>
        if canonical ∈ list.canonicalIndices indices then action.marked track else track) ∧
    (list.selectEach indices action).2 =
      (list.canonicalIndices indices).countP fun canonical =>
        list.tracks[canonical]?.any action.changes := by
  induction indices generalizing list with
  | nil => simp [selectEach, canonicalIndices]
  | cons index indices ih =>
    have same : (list.select index action).1.canonicalIndices indices =
        list.canonicalIndices indices := by
      rw [canonicalIndices, select_visible, canonicalIndices]
    rw [selectEach_cons]
    dsimp only
    cases shown : list.visible[index]? with
    | none =>
      have skipped : list.canonicalIndices (index :: indices) = list.canonicalIndices indices := by
        simp only [canonicalIndices, List.filterMap_cons, shown]
      rw [skipped] at once ⊢
      rw [select_of_hidden action shown, Bool.toNat_false, Nat.zero_add]
      exact ih once
    | some first =>
      have taken : list.canonicalIndices (index :: indices) =
          first :: list.canonicalIndices indices := by
        simp only [canonicalIndices, List.filterMap_cons, shown]
      rw [taken] at once ⊢
      -- The track acted on first is not among those that follow.
      obtain ⟨fresh, once⟩ := List.nodup_cons.mp once
      have rest : ((list.select index action).1.canonicalIndices indices).Nodup := by rwa [same]
      obtain ⟨tracks, count⟩ := ih rest
      rw [same] at tracks count
      constructor
      · intro canonical
        rw [tracks, select_tracks action shown, Option.map_map]
        congr 1
        funext track
        by_cases here : canonical = first
        · subst here
          simp [fresh]
        · simp [here]
      · rw [count, select_changes action shown, List.countP_cons, Nat.add_comm]
        congr 1
        · apply List.countP_congr
          intro canonical member
          have other : canonical ≠ first := by
            rintro rfl
            exact fresh member
          rw [select_tracks action shown]
          simp [other]
        · cases list.tracks[first]?.any action.changes <;> rfl

end SelectEach

/-! ### Counting changes -/

/-- The number of tracks whose selection differs between two states of a list. -/
def changedFlags (before after : TrackList) : Nat :=
  (List.range before.tracks.length).countP fun canonical =>
    before.tracks[canonical]?.map Track.selected != after.tracks[canonical]?.map Track.selected

/-- Where no track is acted on twice, the count is the number of changed selections. -/
theorem selectEach_count {list : TrackList} {indices : List Nat}
    (once : (list.canonicalIndices indices).Nodup) (action : SelectAction) :
    (list.selectEach indices action).2 =
      list.changedFlags (list.selectEach indices action).1 := by
  obtain ⟨tracks, count⟩ := selectEach_once action once
  rw [count, changedFlags, List.countP_eq_length_filter, List.countP_eq_length_filter]
  apply List.Perm.length_eq
  rw [List.perm_ext_iff_of_nodup (once.filter _) (List.nodup_range.filter _)]
  intro canonical
  rw [List.mem_filter, List.mem_filter, List.mem_range, tracks]
  cases found : list.tracks[canonical]? with
  | none => simp
  | some track =>
    have inside := (List.getElem?_eq_some_iff.mp found).1
    by_cases chosen : canonical ∈ list.canonicalIndices indices
    · have changes : action.changes track = (track.selected != action.apply track.selected) :=
        bne_comm
      simp [chosen, inside, SelectAction.marked, changes]
    · simp [chosen]

/-! ### Matching tracks -/

section Matching

variable {list : TrackList}

/-- Lists that differ in marks show the same tracks but for their selection. -/
theorem deselected_get?_of_unmarked {other : TrackList} (same : other.unmarked = list.unmarked)
    (index : Nat) :
    (other.get? index).map Track.deselected = (list.get? index).map Track.deselected := by
  have visible : other.visible = list.visible := by
    have shown := congrArg TrackList.visible same
    exact shown
  have tracks : other.tracks.map Track.deselected = list.tracks.map Track.deselected := by
    have held := congrArg TrackList.tracks same
    exact held
  rw [get?, get?, visible]
  cases list.visible[index]? with
  | none => rfl
  | some canonical =>
    rw [Option.bind_some, Option.bind_some, ← List.getElem?_map, ← List.getElem?_map, tracks]

/-- What does not go by the selection holds at the same visible indices, whatever the marks. -/
theorem any_get?_of_unmarked {other : TrackList} (same : other.unmarked = list.unmarked)
    {kind : Track → Bool} (blind : ∀ track, kind track.deselected = kind track) (index : Nat) :
    (other.get? index).any kind = (list.get? index).any kind := by
  have both := congrArg (Option.any kind) (deselected_get?_of_unmarked same index)
  simpa only [Option.any_map, Function.comp_def, blind] using both

/-- Marks do not decide which tracks match. -/
theorem hits_of_unmarked {other : TrackList} (same : other.unmarked = list.unmarked)
    (matcher : Matcher) (mask : FieldMask) : other.hits matcher mask = list.hits matcher mask := by
  have accepts : ∀ track, matcher.accepts track.deselected mask = matcher.accepts track mask := by
    intro track
    simp only [Matcher.accepts, Track.text_deselected]
  funext index
  exact any_get?_of_unmarked same accepts index

/-- A range of indices is made of those before one of them, that one, and those after it. -/
theorem range'_split {first middle stop : Nat} (low : first ≤ middle) (high : middle < stop) :
    List.range' first (stop - first) =
      List.range' first (middle - first) ++
        middle :: List.range' (middle + 1) (stop - (middle + 1)) := by
  have reaches : first + (middle - first) = middle := by omega
  have counts : stop - first = middle - first + (stop - middle) := by omega
  have rest : stop - middle = stop - (middle + 1) + 1 := by omega
  rw [counts, ← List.range'_append_1, reaches, rest, List.range'_succ]

/-- The hits of a range are the first one found and the hits after it. -/
theorem filter_range'_of_find? {hit : Nat → Bool} {first stop found : Nat}
    (search : (List.range' first (stop - first)).find? hit = some found) :
    (List.range' first (stop - first)).filter hit =
      found :: (List.range' (found + 1) (stop - (found + 1))).filter hit := by
  obtain ⟨here, member, missed⟩ := List.find?_range'_eq_some.mp search
  have within := List.mem_range'_1.mp member
  have passed : (List.range' first (found - first)).filter hit = [] := by
    rw [List.filter_eq_nil_iff]
    intro earlier skipped
    have between := List.mem_range'_1.mp skipped
    simpa using missed earlier between.1 (by omega)
  rw [range'_split within.1 (by omega), List.filter_append, passed, List.nil_append,
    List.filter_cons_of_pos here]

/-- A search on to the end. -/
theorem findWith_from {index : Nat} (inside : index < list.size) (matcher : Matcher)
    (mask : FieldMask) :
    list.findWith matcher mask index (list.size - 1) false =
      (List.range' index (list.size - index)).find? (list.hits matcher mask) := by
  rw [findWith_eq_find? (Nat.zero_lt_of_lt inside)]
  simp only [Nat.min_eq_left (Nat.le_sub_one_of_lt inside), Nat.min_self, Bool.false_eq_true,
    if_false]
  rw [arc_last inside]

/-- What the loop of a search on to the end comes to is what the search finds. -/
theorem findWith_of_scan {index : Nat} {matcher : Matcher} {mask : FieldMask} {tested : List Nat}
    {result : Option Nat} (inside : index < list.size)
    (scan : Scan (list.hits matcher mask) (fun index => (index + 1) % list.size) (list.size - 1)
      index tested result) :
    list.findWith matcher mask index (list.size - 1) false = result := by
  obtain ⟨visited, ends, _⟩ :=
    scan_forward inside (Nat.sub_one_lt_of_lt inside) (list.hits matcher mask)
  rw [findWith_from inside, ← arc_last inside]
  exact (ends.unique scan).2

/-- The loop that searches for one hit after the other and acts on each, with no bound on its
searches nor on the steps of a search.  `acted` are the indices that it acts on, in order, and
`after` is the list that it ends with and the number of changes that it counts. -/
inductive Chase (matcher : Matcher) (mask : FieldMask) (action : SelectAction) :
    (index : Nat) → (list : TrackList) → (acted : List Nat) → (after : TrackList × Nat) → Prop where
  | past {index : Nat} {list : TrackList} (beyond : list.size ≤ index) :
      Chase matcher mask action index list [] (list, 0)
  | missed {index : Nat} {list : TrackList} {tested : List Nat} (inside : index < list.size)
      (scan : Scan (list.hits matcher mask) (fun index => (index + 1) % list.size) (list.size - 1)
        index tested none) :
      Chase matcher mask action index list [] (list, 0)
  | turned {index found : Nat} {list : TrackList} {tested : List Nat} (inside : index < list.size)
      (scan : Scan (list.hits matcher mask) (fun index => (index + 1) % list.size) (list.size - 1)
        index tested (some found)) (back : found < index) :
      Chase matcher mask action index list [] (list, 0)
  | hit {index found : Nat} {list : TrackList} {tested acted : List Nat} {after : TrackList × Nat}
      (inside : index < list.size)
      (scan : Scan (list.hits matcher mask) (fun index => (index + 1) % list.size) (list.size - 1)
        index tested (some found)) (ahead : ¬ found < index)
      (rest : Chase matcher mask action (found + 1) (list.select found action).1 acted after) :
      Chase matcher mask action index list (found :: acted)
        (after.1, (list.select found action).2.toNat + after.2)

namespace Chase

variable {matcher : Matcher} {mask : FieldMask} {action : SelectAction} {index : Nat}
  {acted others : List Nat} {after other : TrackList × Nat}

/-- The loop has one outcome. -/
theorem unique (chase : Chase matcher mask action index list acted after)
    (again : Chase matcher mask action index list others other) :
    acted = others ∧ after = other := by
  induction chase generalizing others other with
  | past beyond =>
    cases again with
    | past _ => exact ⟨rfl, rfl⟩
    | missed inside _ | turned inside _ _ | hit inside _ _ _ => omega
  | missed inside scan =>
    cases again with
    | past beyond => omega
    | missed _ _ => exact ⟨rfl, rfl⟩
    | turned _ rescan _ | hit _ rescan _ _ => cases (scan.unique rescan).2
  | turned inside scan back =>
    cases again with
    | past beyond => omega
    | missed _ rescan => cases (scan.unique rescan).2
    | turned _ _ _ => exact ⟨rfl, rfl⟩
    | hit _ rescan ahead _ =>
      cases (scan.unique rescan).2
      exact absurd back ahead
  | hit inside scan ahead _ ih =>
    cases again with
    | past beyond => omega
    | missed _ rescan => cases (scan.unique rescan).2
    | turned _ rescan back =>
      cases (scan.unique rescan).2
      exact absurd back ahead
    | hit _ rescan _ rest =>
      cases (scan.unique rescan).2
      obtain ⟨rfl, rfl⟩ := ih rest
      exact ⟨rfl, rfl⟩

/-- A bound that the loop does not reach changes nothing. -/
theorem selectHits_eq {fuel : Nat} (chase : Chase matcher mask action index list acted after)
    (enough : acted.length < fuel) (changed : Nat) :
    selectHits matcher mask action fuel index changed list = (after.1, changed + after.2) := by
  induction chase generalizing fuel changed with
  | past beyond =>
    obtain ⟨fuel, rfl⟩ := Nat.exists_eq_succ_of_ne_zero (Nat.ne_of_gt enough)
    rw [selectHits, if_pos beyond, Nat.add_zero]
  | missed inside scan =>
    obtain ⟨fuel, rfl⟩ := Nat.exists_eq_succ_of_ne_zero (Nat.ne_of_gt enough)
    simp only [selectHits, if_neg (Nat.not_le_of_lt inside), findWith_of_scan inside scan,
      Nat.add_zero]
  | turned inside scan back =>
    obtain ⟨fuel, rfl⟩ := Nat.exists_eq_succ_of_ne_zero (Nat.ne_of_gt enough)
    simp only [selectHits, if_neg (Nat.not_le_of_lt inside), findWith_of_scan inside scan,
      if_pos back, Nat.add_zero]
  | hit inside scan ahead _ ih =>
    obtain ⟨fuel, rfl⟩ := Nat.exists_eq_succ_of_ne_zero (Nat.ne_of_gt (Nat.zero_lt_of_lt enough))
    simp only [selectHits, if_neg (Nat.not_le_of_lt inside), findWith_of_scan inside scan,
      if_neg ahead, ih (Nat.lt_of_succ_lt_succ enough), Nat.add_assoc]

end Chase

/-- The loop ends.  It acts on the hits from an index on, each in its turn. -/
theorem chase_hits (list : TrackList) (matcher : Matcher) (mask : FieldMask)
    (action : SelectAction) (index : Nat) :
    let hits := (List.range' index (list.size - index)).filter (list.hits matcher mask)
    Chase matcher mask action index list hits (list.selectEach hits action) := by
  -- Each search leaves fewer indices ahead, and no action makes other indices hits.
  induction left : list.size - index using Nat.strong_induction_on generalizing list index with
  | _ left ih =>
    subst left
    dsimp only
    by_cases past : list.size ≤ index
    · have none_left : list.size - index = 0 := Nat.sub_eq_zero_of_le past
      rw [none_left]
      exact .past past
    have inside : index < list.size := Nat.not_le.mp past
    obtain ⟨tested, scan, _⟩ :=
      scan_forward inside (Nat.sub_one_lt_of_lt inside) (list.hits matcher mask)
    rw [arc_last inside] at scan
    cases search : (List.range' index (list.size - index)).find? (list.hits matcher mask) with
    | none =>
      have missed : (List.range' index (list.size - index)).filter (list.hits matcher mask) =
          [] := List.filter_eq_nil_iff.mpr (List.find?_eq_none.mp search)
      rw [search] at scan
      rw [missed]
      exact .missed inside scan
    | some found =>
      have member := List.mem_range'_1.mp (List.mem_of_find?_eq_some search)
      have marks : (list.select found action).1.unmarked = list.unmarked :=
        list.survivesMarking_unmarked.select rfl found action
      have size : (list.select found action).1.size = list.size := by
        rw [TrackList.size, select_visible, TrackList.size]
      have rest := ih (list.size - (found + 1)) (by omega) (list.select found action).1 (found + 1)
        (by rw [size])
      rw [hits_of_unmarked marks] at rest
      rw [search] at scan
      rw [filter_range'_of_find? search, selectEach_cons]
      exact .hit inside scan (Nat.not_lt.mpr member.1) rest

/-- Searching for one hit after the other from an index on acts on all hits from there on. -/
theorem selectHits_eq (matcher : Matcher) (mask : FieldMask) (action : SelectAction)
    {fuel index : Nat} (enough : list.size - index < fuel) (changed : Nat) :
    selectHits matcher mask action fuel index changed list =
      let acted := list.selectEach
        ((List.range' index (list.size - index)).filter (list.hits matcher mask)) action
      (acted.1, changed + acted.2) := by
  refine (list.chase_hits matcher mask action index).selectHits_eq ?_ changed
  have few := List.length_filter_le (list.hits matcher mask)
    (List.range' index (list.size - index))
  rw [List.length_range'] at few
  exact Nat.lt_of_le_of_lt few enough

/-- Acting on the matching tracks from an index on acts on all hits from there on. -/
theorem selectMatching_eq (list : TrackList) (pattern : String) (mask : FieldMask) (first : Nat)
    (action : SelectAction) :
    list.selectMatching pattern mask first action =
      list.selectEach ((List.range' first (list.size - first)).filter
        (list.hits (Matcher.compile pattern { exact := true }) mask)) action := by
  rw [selectMatching, selectHits_eq _ _ _ (by omega)]
  simp only [Nat.zero_add]

/-- The canonical indices of the hits from an index on. -/
theorem canonicalIndices_hits (list : TrackList) (matcher : Matcher) (mask : FieldMask)
    (first : Nat) :
    list.canonicalIndices ((List.range' first (list.size - first)).filter
      (list.hits matcher mask)) =
      (list.visible.drop first).filter fun canonical =>
        list.tracks[canonical]?.any fun track => matcher.accepts track mask :=
  list.canonicalIndices_filter (fun track => matcher.accepts track mask) first

end Matching

/-! ### Selecting by a property -/

/-- The tracks of a list, with the visible ones of some kind selected. -/
def selecting (list : TrackList) (chosen : Track → Bool) : List Track :=
  list.tracks.mapIdx fun canonical track =>
    if canonical ∈ list.visible ∧ chosen track = true then { track with selected := true }
    else track

/-- Two kinds come to the same if they agree on the visible tracks that are not selected yet. -/
theorem selecting_eq_iff (list : TrackList) (chosen others : Track → Bool) :
    list.selecting chosen = list.selecting others ↔
      ∀ canonical ∈ list.visible, ∀ track, list.tracks[canonical]? = some track →
        track.selected = true ∨ chosen track = others track := by
  constructor
  · intro same canonical shown track found
    cases marked : track.selected with
    | true => exact .inl rfl
    | false =>
      right
      have flag : ∀ kind : Track → Bool,
          (list.selecting kind)[canonical]?.map Track.selected = some (kind track) := by
        intro kind
        rw [selecting, List.getElem?_mapIdx, found, Option.map_some, Option.map_some]
        cases kind track <;> simp [shown, marked]
      apply Option.some_inj.mp
      rw [← flag chosen, same, flag others]
  · intro agree
    apply List.ext_getElem?
    intro canonical
    rw [selecting, selecting, List.getElem?_mapIdx, List.getElem?_mapIdx]
    cases found : list.tracks[canonical]? with
    | none => rfl
    | some track =>
      simp only [Option.map_some]
      by_cases shown : canonical ∈ list.visible
      · rcases agree canonical shown track found with marked | same
        · have kept : { track with selected := true } = track := by rw [← marked]
          simp only [kept, ite_self]
        · rw [same]
      · simp only [shown, false_and, if_false]

/-- Selecting the tracks with a value selects every visible one that has it, and all visible ones
when the value is empty.  It counts the changed selections and changes nothing else. -/
theorem selectMatching_select {list : TrackList} (coherent : list.Coherent) (field : Field)
    (value : String) :
    let result := list.selectMatching value field.mask 0 .select
    (result.1.tracks = list.selecting fun track =>
      value.isEmpty || foldText (track.text field) == foldText value) ∧
      result.2 = list.changedFlags result.1 ∧ result.1.unmarked = list.unmarked := by
  have hits := list.canonicalIndices_hits (Matcher.compile value { exact := true }) field.mask 0
  rw [List.drop_zero] at hits
  have distinct : list.visible.Nodup := coherent.ascending.imp Nat.ne_of_lt
  have once := distinct.filter fun canonical =>
    list.tracks[canonical]?.any fun track =>
      (Matcher.compile value { exact := true }).accepts track field.mask
  rw [← hits] at once
  dsimp only
  rw [selectMatching_eq]
  refine ⟨?_, selectEach_count once .select, list.survivesMarking_unmarked.selectEach rfl _ _⟩
  apply List.ext_getElem?
  intro canonical
  rw [(selectEach_once .select once).1, hits, selecting, List.getElem?_mapIdx]
  cases found : list.tracks[canonical]? with
  | none => rfl
  | some track =>
    have accepts := Matcher.accepts_exact track field value { exact := true } rfl rfl
    simp only [Option.map_some, List.mem_filter, found, Option.any_some, accepts, Bool.bne_false,
      SelectAction.marked, SelectAction.apply]

end TrackList

end TrackBrowser
