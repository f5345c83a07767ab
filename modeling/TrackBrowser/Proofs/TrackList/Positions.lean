/-
Module: TrackBrowser.Proofs.TrackList.Positions
Purpose: Lists whose tracks are numbered without gaps, and what keeps them so.
-/
import TrackBrowser.Proofs.TrackList.Stage

/-!
The source of a list may give its tracks positions.  Placing a track moves the tracks after it on
but not their positions; inserting one at a position, and taking one away, move both.  `Holds` says
which position a track has, and the equations of this module say what the small changes of a list
make of it.

A list is `Dense` when its tracks hold exactly their own indices.  There the first track that holds
a position is the one at that index, so inserting at a held position takes that track out and puts
the new one in its place, and every other track is moved down and up again.
-/

namespace TrackBrowser

/-- A position that is moved down and up again is as before, unless it is the lowest one. -/
theorem Track.shiftPosition_back {track : Track} {position : Nat}
    (held : track.position = some position) (positive : 0 < position) :
    (track.shiftPosition (· - 1)).shiftPosition (· + 1) = track := by
  have back : position - 1 + 1 = position := Nat.sub_add_cancel positive
  have same : ((track.position.map (· - 1)).map (· + 1) : Option Nat) = track.position := by
    rw [held, Option.map_some, Option.map_some, back]
  exact congrArg (fun position => { track with position := position }) same

namespace TrackList

variable {list : TrackList} {canonical index position : Nat} {track : Track}

@[simp] theorem position_kept (list : TrackList) (track : Track) :
    (list.kept track).position = track.position := by
  unfold kept
  split <;> rfl

/-! ### Positions after a small change -/

/-- The track at a canonical index has a position. -/
def Holds (list : TrackList) (index position : Nat) : Prop :=
  ∃ track, list.tracks[index]? = some track ∧ track.position = some position

theorem Holds.lt_length (holds : list.Holds index position) : index < list.tracks.length := by
  obtain ⟨track, found, _⟩ := holds
  exact (List.getElem?_eq_some_iff.mp found).1

/-- A track has one position at most. -/
theorem Holds.unique {other : Nat} (holds : list.Holds index position)
    (again : list.Holds index other) : position = other := by
  obtain ⟨track, found, held⟩ := holds
  obtain ⟨_, same, again⟩ := again
  obtain rfl := Option.some_inj.mp (found.symm.trans same)
  exact Option.some_inj.mp (held.symm.trans again)

/-- Every index but the first is behind another one. -/
theorem Holds.behind (holds : list.Holds index position) (positive : 0 < index) :
    list.Holds (index - 1 + 1) position := by
  rwa [Nat.sub_add_cancel positive]

/-- Which positions are held once they are shifted. -/
theorem holds_shiftPosition (found? : Option Track) (shift : Nat → Nat) :
    (∃ track, found?.map (Track.shiftPosition shift) = some track ∧
      track.position = some position) ↔
        ∃ held, (∃ track, found? = some track ∧ track.position = some held) ∧
          position = shift held := by
  cases found? with
  | none => simp
  | some track =>
    cases held : track.position with
    | none => simp [Track.shiftPosition, held]
    | some old => simp [Track.shiftPosition, held, eq_comm]

theorem holds_take : (list.take canonical track).Holds index position ↔
    (index < canonical ∧ list.Holds index position) ∨
      (canonical ≤ index ∧ ∃ held, list.Holds (index + 1) held ∧ position = held - 1) := by
  rw [Holds, getElem?_take]
  rcases Nat.lt_or_ge index canonical with below | above
  · simp [below, Nat.not_le_of_lt below, Holds]
  · rw [if_neg (Nat.not_lt_of_le above), holds_shiftPosition]
    simp [above, Nat.not_lt_of_le above, Holds]

theorem holds_shiftFrom : (list.shiftFrom canonical).Holds index position ↔
    (index < canonical ∧ list.Holds index position) ∨
      (canonical ≤ index ∧ ∃ held, list.Holds index held ∧ position = held + 1) := by
  rw [Holds, getElem?_shiftFrom]
  rcases Nat.lt_or_ge index canonical with below | above
  · simp [below, Nat.not_le_of_lt below, Holds]
  · rw [if_neg (Nat.not_lt_of_le above), holds_shiftPosition]
    simp [above, Nat.not_lt_of_le above, Holds]

theorem holds_place (inside : canonical ≤ list.tracks.length) :
    (list.place canonical track).Holds index position ↔
      (index < canonical ∧ list.Holds index position) ∨
        (index = canonical ∧ track.position = some position) ∨
          (canonical < index ∧ list.Holds (index - 1) position) := by
  rw [Holds, getElem?_place inside]
  rcases Nat.lt_trichotomy index canonical with below | rfl | above
  · simp [below, Holds, Nat.ne_of_lt below, Nat.lt_asymm below]
  · simp
  · simp [above, Holds, Nat.ne_of_gt above, Nat.lt_asymm above]

/-! ### Inserting at a position -/

/-- No track has a position. -/
def Free (list : TrackList) (position : Nat) : Prop :=
  ∀ index, ¬ list.Holds index position

/-- The first track that has a position, which is the one that an insertion there replaces. -/
structure FirstHolder (list : TrackList) (holder position : Nat) : Prop where
  holds : list.Holds holder position
  first : ∀ index < holder, ¬ list.Holds index position

theorem FirstHolder.unique {holder other : Nat} (first : list.FirstHolder holder position)
    (again : list.FirstHolder other position) : holder = other := by
  rcases Nat.lt_trichotomy holder other with below | same | above
  · exact absurd first.holds (again.first holder below)
  · exact same
  · exact absurd again.holds (first.first other above)

theorem findIdx?_position_eq_none :
    (list.tracks.findIdx? fun track => track.position == some position) = none ↔
      list.Free position := by
  rw [List.findIdx?_eq_none_iff]
  constructor
  · rintro free index ⟨track, found, held⟩
    have missed := free track (List.mem_of_getElem? found)
    simp [held] at missed
  · intro free track member
    obtain ⟨index, found⟩ := List.mem_iff_getElem?.mp member
    simpa using fun held => free index ⟨track, found, held⟩

theorem findIdx?_position_eq_some {holder : Nat} :
    (list.tracks.findIdx? fun track => track.position == some position) = some holder ↔
      list.FirstHolder holder position := by
  rw [List.findIdx?_eq_some_iff_getElem]
  constructor
  · rintro ⟨inside, held, missed⟩
    refine ⟨⟨_, List.getElem?_eq_getElem inside, by simpa using held⟩, ?_⟩
    rintro index below ⟨track, found, again⟩
    obtain ⟨_, rfl⟩ := List.getElem?_eq_some_iff.mp found
    exact missed index below (by simpa using again)
  · rintro ⟨⟨track, found, held⟩, first⟩
    obtain ⟨inside, rfl⟩ := List.getElem?_eq_some_iff.mp found
    refine ⟨inside, by simpa using held, ?_⟩
    intro index below again
    exact first index below
      ⟨_, List.getElem?_eq_getElem (Nat.lt_trans below inside), by simpa using again⟩

/-- A position is free, or some track is the first to have it. -/
theorem free_or_firstHolder (list : TrackList) (position : Nat) :
    list.Free position ∨ ∃ holder, list.FirstHolder holder position := by
  cases found : list.tracks.findIdx? fun track => track.position == some position with
  | none => exact .inl (findIdx?_position_eq_none.mp found)
  | some holder => exact .inr ⟨holder, findIdx?_position_eq_some.mp found⟩

theorem Free.vacate_eq (free : list.Free position) : list.vacate position = list := by
  rw [vacate, findIdx?_position_eq_none.mpr free]

theorem FirstHolder.vacate_eq {holder : Nat} (first : list.FirstHolder holder position) :
    ∃ track, list.tracks[holder]? = some track ∧ list.vacate position = list.take holder track := by
  obtain ⟨track, found, _⟩ := first.holds
  refine ⟨track, found, ?_⟩
  simp only [vacate, findIdx?_position_eq_some.mpr first, takeAt?, found, Option.map_some,
    Option.getD_some]

/-- An insertion, as its small changes. -/
theorem insertAt_of_editable (editable : list.readOnly = false) (position : Nat) (track : Track) :
    list.insertAt position track =
      let canonical := min position (list.vacate position).tracks.length
      .ok (((list.vacate position).shiftFrom canonical).place canonical
        { track with position := some position }, canonical) := by
  simp only [insertAt, editable, Bool.false_eq_true, if_false]
  rfl

/-! ### Dense lists -/

/-- Every track has its own canonical index as its position. -/
def Dense (list : TrackList) : Prop :=
  ∀ index < list.tracks.length, list.Holds index index

/-- Lists with the same positions are dense together. -/
theorem Dense.of_positions {other : TrackList} (dense : list.Dense)
    (same : other.tracks.map Track.position = list.tracks.map Track.position) : other.Dense := by
  intro index inside
  have length : other.tracks.length = list.tracks.length := by simpa using congrArg List.length same
  obtain ⟨track, found, held⟩ := dense index (length ▸ inside)
  have there := congrArg (·[index]?) same
  simp only [List.getElem?_map, found, Option.map_some, held] at there
  exact Option.map_eq_some_iff.mp there

namespace Dense

theorem position_eq (dense : list.Dense) (holds : list.Holds index position) : position = index :=
  holds.unique (dense index holds.lt_length)

theorem free_length (dense : list.Dense) : list.Free list.tracks.length := by
  intro index holds
  have inside := holds.lt_length
  have same := dense.position_eq holds
  omega

theorem firstHolder (dense : list.Dense) (inside : position < list.tracks.length) :
    list.FirstHolder position position := by
  refine ⟨dense position inside, ?_⟩
  intro index below holds
  have same := dense.position_eq holds
  omega

theorem rebuild (dense : list.Dense) (wasEmpty : Bool) : (list.rebuild wasEmpty).Dense := by
  apply dense.of_positions
  rw [rebuild_tracks, List.map_map]
  exact List.map_congr_left fun track _ => list.position_kept track

/-- Under other filters the positions are the same. -/
theorem refilter (dense : list.Dense) (filters : List Filter) (nextHandle : Nat)
    (wasEmpty : Bool) :
    ({ list with filters := filters, nextHandle := nextHandle }.rebuild wasEmpty).Dense := by
  have same : Dense { list with filters := filters, nextHandle := nextHandle } := dense
  exact same.rebuild wasEmpty

/-- Taking a track moves the positions of those after it along with them. -/
theorem take (dense : list.Dense) (inside : canonical < list.tracks.length) (track : Track) :
    (list.take canonical track).Dense := by
  intro index below
  rw [length_tracks_take inside] at below
  rw [holds_take]
  rcases Nat.lt_or_ge index canonical with before | after
  · exact .inl ⟨before, dense index (by omega)⟩
  · exact .inr ⟨after, index + 1, dense (index + 1) (by omega), rfl⟩

theorem takeAt? (dense : list.Dense) (canonical : Nat) :
    (((list.takeAt? canonical).map (·.1)).getD list).Dense := by
  unfold TrackList.takeAt?
  cases found : list.tracks[canonical]? with
  | none => exact dense
  | some track => exact dense.take (List.getElem?_eq_some_iff.mp found).1 track

theorem dropLast (dense : list.Dense) (limit count : Nat) :
    (TrackList.dropLast limit count list).Dense := by
  induction count generalizing list with
  | zero => exact dense
  | succ count ih =>
    have shorter := dense.takeAt? (list.tracks.length - 1)
    unfold TrackList.dropLast
    split
    · exact dense
    · cases taken : list.takeAt? (list.tracks.length - 1) with
      | none => exact dense
      | some result =>
        rw [taken] at shorter
        exact ih shorter

/-- A track placed at the end has to have the next position. -/
theorem place_last (dense : list.Dense) (next : track.position = some list.tracks.length) :
    (list.place list.tracks.length track).Dense := by
  intro index below
  rw [holds_place (Nat.le_refl _)]
  rcases Nat.lt_or_ge index list.tracks.length with before | after
  · exact .inl ⟨before, dense index before⟩
  · have last : index = list.tracks.length := by
      rw [place_tracks, List.length_insertIdx_of_le_length (Nat.le_refl _)] at below
      omega
    exact .inr (.inl ⟨last, by rw [next, last]⟩)

/-- Neither flipping a selection nor walking over it moves a position. -/
theorem survivesMarking : SurvivesMarking Dense where
  flip := by
    intro list index canonical track selected dense _ found _
    have same : Track.position { track with selected := selected } = track.position := rfl
    exact dense.of_positions (map_set_of_same Track.position found same)
  walks := fun _ _ dense => dense

/-- The positions behind a track that is taken out move down, and up again for its replacement. -/
theorem getElem?_replaced (dense : list.Dense) (inside : canonical < list.tracks.length)
    (old track : Track) (index : Nat) :
    (((list.take canonical old).shiftFrom canonical).place canonical track).tracks[index]? =
      if index = canonical then some (list.kept track) else list.tracks[index]? := by
  have room : canonical ≤ ((list.take canonical old).shiftFrom canonical).tracks.length := by
    rw [length_tracks_shiftFrom, length_tracks_take inside]
    omega
  rw [getElem?_place room]
  rcases Nat.lt_trichotomy index canonical with below | rfl | above
  · rw [if_pos below, getElem?_shiftFrom, if_pos below, getElem?_take, if_pos below,
      if_neg (Nat.ne_of_lt below)]
  · rw [if_neg (Nat.lt_irrefl index), if_pos rfl, if_pos rfl]
    rfl
  · have after : ¬ index - 1 < canonical := by omega
    have back : index - 1 + 1 = index := by omega
    rw [if_neg (Nat.lt_asymm above), if_neg (Nat.ne_of_gt above), if_neg (Nat.ne_of_gt above),
      getElem?_shiftFrom, if_neg after, getElem?_take, if_neg after, back]
    cases there : list.tracks[index]? with
    | none => rfl
    | some track =>
      obtain ⟨_, same, held⟩ := dense index (List.getElem?_eq_some_iff.mp there).1
      obtain rfl := Option.some_inj.mp (there.symm.trans same)
      rw [Option.map_some, Option.map_some, Track.shiftPosition_back held (by omega)]

end Dense

/-- No position moves when a track is placed at the end. -/
theorem getElem?_extended (list : TrackList) (track : Track) (index : Nat) :
    ((list.shiftFrom list.tracks.length).place list.tracks.length track).tracks[index]? =
      if index = list.tracks.length then some (list.kept track) else list.tracks[index]? := by
  rw [getElem?_place (by rw [length_tracks_shiftFrom])]
  rcases Nat.lt_trichotomy index list.tracks.length with below | rfl | above
  · rw [if_pos below, getElem?_shiftFrom, if_pos below, if_neg (Nat.ne_of_lt below)]
  · rw [if_neg (Nat.lt_irrefl _), if_pos rfl, if_pos rfl]
    rfl
  · rw [if_neg (Nat.lt_asymm above), if_neg (Nat.ne_of_gt above), if_neg (Nat.ne_of_gt above),
      List.getElem?_eq_none (by rw [length_tracks_shiftFrom]; omega),
      List.getElem?_eq_none (Nat.le_of_lt above)]

/-- Inserting at the position of a track takes this track out and places the new one there. -/
theorem Dense.insertAt_held (dense : list.Dense) (editable : list.readOnly = false)
    (held : position < list.tracks.length) (track : Track) :
    ∃ old, list.insertAt position track =
      .ok (((list.take position old).shiftFrom position).place position
        { track with position := some position }, position) := by
  obtain ⟨old, _, vacated⟩ := (dense.firstHolder held).vacate_eq
  have there : min position (list.take position old).tracks.length = position := by
    rw [length_tracks_take held]
    omega
  refine ⟨old, ?_⟩
  rw [insertAt_of_editable editable, vacated]
  dsimp only
  rw [there]

/-- Inserting into a dense list puts the track at the index of its position, in place of the one
that was there, and leaves every other track as it was. -/
theorem Dense.insertAt_ok (dense : list.Dense) (editable : list.readOnly = false)
    (inside : position ≤ list.tracks.length) (track : Track) :
    ∃ after, list.insertAt position track = .ok (after, position) ∧
      ∀ index, after.tracks[index]? =
        if index = position then some (list.kept { track with position := some position })
        else list.tracks[index]? := by
  rcases Nat.lt_or_eq_of_le inside with held | rfl
  · obtain ⟨old, inserted⟩ := dense.insertAt_held editable held track
    exact ⟨_, inserted, dense.getElem?_replaced held old _⟩
  · rw [insertAt_of_editable editable]
    dsimp only
    rw [dense.free_length.vacate_eq, Nat.min_self]
    exact ⟨_, rfl, list.getElem?_extended _⟩

/-! ### Operations on dense lists -/

/-- Operations that number no track otherwise than by its index.  Those that replace or reorder all
tracks are not among them, since the tracks bring their positions along. -/
def Operation.Fits (list : TrackList) : Operation → Prop
  | .append track => track.position = some list.tracks.length
  | .insertAt position _ => position ≤ list.tracks.length
  | .load _ | .copyFrom _ | .sort _ | .sortByFields _ | .shuffle _ => False
  | _ => True

namespace Dense

/-- After an insertion the list is dense again. -/
theorem of_insertAt (dense : list.Dense) (inside : position ≤ list.tracks.length) (track : Track) :
    (list.perform (.insertAt position track)).Dense := by
  simp only [perform]
  cases editable : list.readOnly with
  | true => simpa [insertAt, editable, afterCall] using dense
  | false =>
    obtain ⟨after, inserted, tracks⟩ := dense.insertAt_ok editable inside track
    simp only [inserted, afterCall]
    intro index below
    have there := tracks index
    rw [List.getElem?_eq_getElem below] at there
    split at there
    · rename_i here
      refine ⟨_, (tracks index).trans (if_pos here), ?_⟩
      rw [position_kept, here]
    · rename_i other
      have inside := (List.getElem?_eq_some_iff.mp there.symm).1
      obtain ⟨old, found, held⟩ := dense index inside
      exact ⟨old, (tracks index).trans ((if_neg other).trans found), held⟩

/-- Every operation that fits keeps a list dense. -/
theorem perform (dense : list.Dense) (operation : Operation) (fits : operation.Fits list) :
    (list.perform operation).Dense := by
  cases operation with
  | load | copyFrom | sort | sortByFields | shuffle => exact fits.elim
  | append track =>
    simp only [TrackList.perform, TrackList.append]
    split
    · exact dense
    · exact dense.place_last fits
  | insertAt position track => exact dense.of_insertAt fits track
  | removeAt index =>
    simp only [TrackList.perform, TrackList.removeAt]
    split
    · exact dense
    · cases shown : list.visible[index]? with
      | none => exact dense
      | some canonical =>
        have taken := dense.takeAt? canonical
        rw [Option.bind_some]
        cases found : list.takeAt? canonical with
        | none => exact dense
        | some result =>
          rw [found] at taken
          exact taken
  | clear =>
    intro index inside
    exact absurd inside (Nat.not_lt_zero index)
  | truncate limit => exact dense.dropLast limit _
  | addFilter pattern mask =>
    exact dense.refilter (list.filters ++ [list.newFilter pattern mask]) _ _
  | removeFilter handle =>
    simp only [TrackList.perform, removeFilter]
    split
    · exact dense.refilter _ list.nextHandle _
    · exact dense
  | popFilter =>
    simp only [TrackList.perform, popFilter?]
    cases list.filters.getLast? with
    | none => exact dense
    | some filter => exact dense.refilter _ list.nextHandle _
  | clearFilters =>
    simp only [TrackList.perform, clearFilters]
    split
    · exact dense
    · exact dense.refilter _ list.nextHandle _
  | setSelected index selected => exact survivesMarking.setSelected dense index selected
  | select index action => exact survivesMarking.select dense index action
  | selectAll action => exact survivesMarking.selectEach dense _ action
  | selectMatching pattern mask first action =>
    exact survivesMarking.selectHits dense _ mask action _ first 0
  | nextSelected => exact survivesMarking.nextSelected dense
  | previousSelected => exact survivesMarking.previousSelected dense
  | popSelected => exact survivesMarking.popSelected dense
  | setHeight height =>
    simp only [TrackList.perform, setHeight]
    split <;> exact dense
  | search pattern backwards skipCurrent =>
    cases searched : list.search pattern backwards skipCurrent with
    | error failure =>
      simp only [TrackList.perform, searched]
      exact dense
    | ok result =>
      obtain ⟨moved, found⟩ := result
      simp only [TrackList.perform, searched, afterCall]
      rw [search_ok searched]
      exact dense
  | setReadOnly | setRegex | setCaseSensitive | markRedraw | clearRedraw | restartWalks
  | setScrollMode | setScrolloff | setWrap | moveCursor | putCursor | scroll => exact dense

end Dense

/-- Positions stay dense.  Every operation that fits leaves a dense list dense.  Inserting a track
at a position of the list replaces the track there by it, visible or hidden, and every other track
stays as it is; inserting at the end appends the track.  Either way it gets that position, keeps its
selection only if no filter hides it, and the position is what the call returns.  A read-only list
refuses the insertion. -/
theorem dense_perform_insertAt {list : TrackList} (dense : list.Dense) :
    (∀ operation, Operation.Fits list operation → (list.perform operation).Dense) ∧
      ∀ position track, position ≤ list.tracks.length →
        (list.readOnly = true → list.insertAt position track = .error .readOnly) ∧
          (list.readOnly = false → ∃ after, list.insertAt position track = .ok (after, position) ∧
            let inserted : Track := { track with position := some position }
            let placed := if list.passes inserted then inserted else inserted.deselected
            (position < list.tracks.length → after.tracks = list.tracks.set position placed) ∧
              (position = list.tracks.length → after.tracks = list.tracks ++ [placed])) := by
  refine ⟨dense.perform, ?_⟩
  intro position track inside
  constructor
  · intro locked
    rw [insertAt, if_pos locked]
  · intro editable
    obtain ⟨after, inserted, tracks⟩ := dense.insertAt_ok editable inside track
    refine ⟨after, inserted, ?_, ?_⟩
    · intro held
      apply List.ext_getElem?
      intro index
      rw [tracks, List.getElem?_set]
      rcases eq_or_ne index position with rfl | other
      · rw [if_pos rfl, if_pos rfl, if_pos held]
        rfl
      · rw [if_neg other, if_neg (Ne.symm other)]
    · rintro rfl
      apply List.ext_getElem?
      intro index
      rw [tracks]
      rcases Nat.lt_trichotomy index list.tracks.length with below | rfl | above
      · rw [if_neg (Nat.ne_of_lt below), List.getElem?_append_left below]
      · rw [if_pos rfl, List.getElem?_concat_length]
        rfl
      · rw [if_neg (Nat.ne_of_gt above), List.getElem?_eq_none (Nat.le_of_lt above),
          List.getElem?_eq_none (by rw [List.length_append]; exact above)]

/-- Three numbered tracks, of which a filter hides the one in the middle. -/
def numberedRun : List Operation :=
  [.append { file := "first.ogg", artist := "Ada", position := some 0 },
    .append { file := "second.ogg", artist := "Bo", position := some 1 },
    .append { file := "third.ogg", artist := "Ada", position := some 2 },
    .addFilter "ada" .all]

/-- Replacing the hidden track. -/
theorem dense_perform_insertAt_numberedRun :
    (run numberedRun).Dense ∧ 1 ≤ (run numberedRun).tracks.length ∧
      ∃ after, (run numberedRun).insertAt 1 { file := "new.ogg", selected := true } =
        .ok (after, 1) ∧ after.tracks =
          [{ file := "first.ogg", artist := "Ada", position := some 0 },
            { file := "new.ogg", position := some 1 },
            { file := "third.ogg", artist := "Ada", position := some 2 }] := by
  have dense : (run numberedRun).Dense := by
    have start : (run []).Dense := fun index inside => absurd inside (Nat.not_lt_zero index)
    have one := start.perform numberedRun[0] rfl
    have two := one.perform numberedRun[1] rfl
    have three := two.perform numberedRun[2] rfl
    exact three.perform numberedRun[3] trivial
  have length : (run numberedRun).tracks.length = 3 := by decide +kernel
  have editable : (run numberedRun).readOnly = false := by decide +kernel
  obtain ⟨_, inserts⟩ := dense_perform_insertAt dense
  obtain ⟨after, inserted, replaced, _⟩ :=
    (inserts 1 { file := "new.ogg", selected := true } (by omega)).2 editable
  refine ⟨dense, by omega, after, inserted, (replaced (by omega)).trans ?_⟩
  decide +kernel

/-- A list with a numbered track that is then locked. -/
def lockedRun : List Operation :=
  [.append { file := "row.ogg", position := some 0 }, .setReadOnly true]

/-- A locked list is dense and still replaces nothing. -/
theorem dense_insertAt_lockedRun :
    (run lockedRun).Dense ∧ 0 < (run lockedRun).tracks.length ∧
      (run lockedRun).insertAt 0 { file := "new.ogg" } = .error .readOnly := by
  have start : (run []).Dense := fun index inside => absurd inside (Nat.not_lt_zero index)
  have one := start.perform lockedRun[0] rfl
  exact ⟨one.perform lockedRun[1] trivial, by decide +kernel, rfl⟩

end TrackList

end TrackBrowser
