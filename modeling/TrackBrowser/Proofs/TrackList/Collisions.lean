/-
Module: TrackBrowser.Proofs.TrackList.Collisions
Purpose: When inserting and removing tracks give two tracks the same position.
-/
import TrackBrowser.Proofs.TrackList.Positions

/-!
An insertion looks for the track that it replaces by its position, but it places and moves tracks by
their index, and removals move every later track.  Where positions and indices disagree, one of two
tracks with consecutive positions can be moved and the other not, and then both have the same one.

`Collides` says of a list whether a call brings two tracks together in this way.  As long as every
track is `Numbered`, by a position that is not below its index, this is exactly when positions stop
being distinct.
-/

namespace TrackBrowser

namespace TrackList

variable {list : TrackList} {canonical holder index position : Nat} {track : Track}

/-! ### Distinct positions -/

/-- No two tracks have the same position. -/
def Distinct (list : TrackList) : Prop :=
  ∀ low high position, low < high → list.Holds low position → ¬ list.Holds high position

theorem Distinct.eq {other : Nat} (distinct : list.Distinct) (holds : list.Holds index position)
    (again : list.Holds other position) : index = other := by
  rcases Nat.lt_trichotomy index other with below | same | above
  · exact absurd again (distinct index other position below holds)
  · exact same
  · exact absurd holds (distinct other index position above again)

theorem Dense.distinct (dense : list.Dense) : list.Distinct := by
  intro low high position below holds again
  have one := dense.position_eq holds
  have two := dense.position_eq again
  omega

/-- Some track that `below` picks has the position right below that of one that `above` picks. -/
def Adjoins (list : TrackList) (below above : Nat → Prop) : Prop :=
  ∃ low high position, below low ∧ above high ∧
    list.Holds low position ∧ list.Holds high (position + 1)

/-! ### Numbered lists -/

/-- Every track of a list that can be edited has a position, and none is below its index. -/
structure Numbered (list : TrackList) : Prop where
  editable : list.readOnly = false
  holds : ∀ index < list.tracks.length, ∃ position, index ≤ position ∧ list.Holds index position

namespace Numbered

theorem of_empty (empty : list.tracks = []) (editable : list.readOnly = false) :
    list.Numbered := by
  refine ⟨editable, fun index inside => ?_⟩
  rw [empty] at inside
  exact absurd inside (Nat.not_lt_zero index)

theorem le_position (numbered : list.Numbered) (holds : list.Holds index position) :
    index ≤ position := by
  obtain ⟨other, above, again⟩ := numbered.holds index holds.lt_length
  rwa [holds.unique again]

/-- A track behind a taken one has a position to come down from. -/
theorem holds_take (numbered : list.Numbered) : (list.take canonical track).Holds index position ↔
    (index < canonical ∧ list.Holds index position) ∨
      (canonical ≤ index ∧ list.Holds (index + 1) (position + 1)) := by
  rw [TrackList.holds_take]
  refine or_congr_right (and_congr_right fun _ => ⟨?_, fun holds => ⟨_, holds, rfl⟩⟩)
  rintro ⟨held, holds, rfl⟩
  have positive := numbered.le_position holds
  rwa [Nat.sub_add_cancel (by omega)]

theorem take (numbered : list.Numbered) (inside : canonical < list.tracks.length)
    (track : Track) : (list.take canonical track).Numbered := by
  refine ⟨numbered.editable, fun index below => ?_⟩
  rw [length_tracks_take inside] at below
  simp only [numbered.holds_take]
  rcases Nat.lt_or_ge index canonical with before | after
  · obtain ⟨position, above, holds⟩ := numbered.holds index (by omega)
    exact ⟨position, above, .inl ⟨before, holds⟩⟩
  · obtain ⟨position, above, holds⟩ := numbered.holds (index + 1) (by omega)
    exact ⟨position - 1, by omega, .inr ⟨after, by rwa [Nat.sub_add_cancel (by omega)]⟩⟩

end Numbered

/-! ### Insertions -/

/-- The positions of the tracks around a new one: behind it, tracks and positions move up. -/
def Raised (list : TrackList) (canonical index held : Nat) : Prop :=
  (index < canonical ∧ list.Holds index held) ∨
    (canonical < index ∧ ∃ old, list.Holds (index - 1) old ∧ held = old + 1)

/-- The positions of the tracks around one that replaces an earlier one: in between, tracks and
positions move down. -/
def Lowered (list : TrackList) (holder position index held : Nat) : Prop :=
  (index < holder ∧ list.Holds index held) ∨
    (holder ≤ index ∧ index < position ∧ list.Holds (index + 1) (held + 1)) ∨
      (position < index ∧ list.Holds index held)

/-- Behind the end it makes no difference where a track is placed. -/
theorem raised_min {held : Nat} : list.Raised (min position list.tracks.length) index held ↔
    list.Raised position index held := by
  refine or_congr ?_ ?_
  · refine and_congr_left fun holds => ?_
    have bound := holds.lt_length
    omega
  · refine and_congr_left fun ⟨old, holds, _⟩ => ?_
    have bound := holds.lt_length
    omega

/-- Placing a track in the gap that the shift of the later positions makes. -/
theorem holds_place_shiftFrom {held : Nat} (inside : canonical ≤ list.tracks.length)
    (next : track.position = some position) :
    ((list.shiftFrom canonical).place canonical track).Holds index held ↔
      (index = canonical ∧ held = position) ∨ list.Raised canonical index held := by
  have room : canonical ≤ (list.shiftFrom canonical).tracks.length := by
    rwa [length_tracks_shiftFrom]
  rw [holds_place room, next, holds_shiftFrom, holds_shiftFrom, Option.some_inj,
    eq_comm (a := position)]
  constructor
  · rintro (⟨below, ⟨-, holds⟩ | ⟨above, -⟩⟩ | here | ⟨above, ⟨below, -⟩ | ⟨-, moved⟩⟩)
    · exact .inr (.inl ⟨below, holds⟩)
    · omega
    · exact .inl here
    · omega
    · exact .inr (.inr ⟨above, moved⟩)
  · rintro (here | ⟨below, holds⟩ | ⟨above, moved⟩)
    · exact .inr (.inl here)
    · exact .inl ⟨below, .inl ⟨below, holds⟩⟩
    · exact .inr (.inr ⟨above, .inr ⟨by omega, moved⟩⟩)

theorem Numbered.place_shiftFrom (numbered : list.Numbered)
    (inside : canonical ≤ list.tracks.length) (reached : canonical ≤ position)
    (next : track.position = some position) :
    ((list.shiftFrom canonical).place canonical track).Numbered := by
  have room : canonical ≤ (list.shiftFrom canonical).tracks.length := by
    rwa [length_tracks_shiftFrom]
  refine ⟨numbered.editable, fun index below => ?_⟩
  rw [place_tracks, List.length_insertIdx_of_le_length room, length_tracks_shiftFrom] at below
  simp only [holds_place_shiftFrom inside next]
  rcases Nat.lt_trichotomy index canonical with before | rfl | behind
  · obtain ⟨held, above, holds⟩ := numbered.holds index (by omega)
    exact ⟨held, above, .inr (.inl ⟨before, holds⟩)⟩
  · exact ⟨position, reached, .inl ⟨rfl, rfl⟩⟩
  · obtain ⟨held, above, holds⟩ := numbered.holds (index - 1) (by omega)
    exact ⟨held + 1, by omega, .inr (.inr ⟨behind, held, holds, rfl⟩)⟩

/-- An insertion that succeeds.  It puts the track at an index, once the first track with that
position is gone, and the other tracks around it. -/
structure Receives (list : TrackList) (position : Nat) (track : Track) (after : TrackList)
    (canonical : Nat) : Prop where
  inserted : list.insertAt position track = .ok (after, canonical)
  found : after.tracks[canonical]? = some (list.kept { track with position := some position })
  numbered : after.Numbered
  holds : ∀ {index held}, after.Holds index held ↔
    (index = canonical ∧ held = position) ∨ (list.vacate position).Raised position index held
  elsewhere : ∀ {index held}, (list.vacate position).Raised position index held →
    index ≠ canonical

theorem Numbered.vacate (numbered : list.Numbered) (position : Nat) :
    (list.vacate position).Numbered := by
  rcases list.free_or_firstHolder position with free | ⟨holder, first⟩
  · rwa [free.vacate_eq]
  · obtain ⟨old, _, vacated⟩ := first.vacate_eq
    rw [vacated]
    exact numbered.take first.holds.lt_length old

/-- Filters are not affected when the holder of a position is taken out. -/
theorem kept_vacate (list : TrackList) (position : Nat) :
    (list.vacate position).kept = list.kept := by
  rcases list.free_or_firstHolder position with free | ⟨holder, first⟩
  · rw [free.vacate_eq]
  · obtain ⟨old, _, vacated⟩ := first.vacate_eq
    rw [vacated]
    rfl

/-- Every insertion into a numbered list succeeds. -/
theorem Numbered.receives (numbered : list.Numbered) (position : Nat) (track : Track) :
    ∃ after canonical, list.Receives position track after canonical := by
  have inside := Nat.min_le_right position (list.vacate position).tracks.length
  have room : min position (list.vacate position).tracks.length ≤
      ((list.vacate position).shiftFrom
        (min position (list.vacate position).tracks.length)).tracks.length := by
    rwa [length_tracks_shiftFrom]
  have next : Track.position { track with position := some position } = some position := rfl
  have again := (numbered.vacate position).place_shiftFrom inside (Nat.min_le_left ..) next
  refine ⟨_, _, ⟨insertAt_of_editable numbered.editable position track, ?_, again, ?_, ?_⟩⟩
  · rw [getElem?_place room, if_neg (Nat.lt_irrefl _), if_pos rfl, ← kept_vacate list position]
    rfl
  · intro index held
    rw [holds_place_shiftFrom inside next, raised_min]
  · intro index held raised
    rcases raised_min.mpr raised with ⟨before, _⟩ | ⟨behind, _⟩
    · exact Nat.ne_of_lt before
    · exact Nat.ne_of_gt behind

namespace Receives

variable {after : TrackList}

theorem alone_iff (received : list.Receives position track after canonical) :
    (∀ index, after.Holds index position → index = canonical) ↔
      ∀ index, ¬ (list.vacate position).Raised position index position := by
  constructor
  · intro alone index other
    exact received.elsewhere other (alone index (received.holds.mpr (.inr other)))
  · intro apart index holds
    rcases received.holds.mp holds with ⟨here, _⟩ | other
    · exact here
    · exact absurd other (apart index)

/-- Afterwards positions are distinct when those of the other tracks are, and none of them is the
position of the new one. -/
theorem distinct_iff (received : list.Receives position track after canonical) :
    after.Distinct ↔
      (∀ index, ¬ (list.vacate position).Raised position index position) ∧
        ∀ low high held, low < high → (list.vacate position).Raised position low held →
          ¬ (list.vacate position).Raised position high held := by
  constructor
  · intro distinct
    refine ⟨received.alone_iff.mp fun index holds => ?_, fun low high held below one two => ?_⟩
    · exact distinct.eq holds (received.holds.mpr (.inl ⟨rfl, rfl⟩))
    · exact distinct low high held below (received.holds.mpr (.inr one))
        (received.holds.mpr (.inr two))
  · rintro ⟨apart, distinct⟩ low high held below holds again
    rcases received.holds.mp holds with ⟨here, rfl⟩ | one <;>
      rcases received.holds.mp again with ⟨there, same⟩ | two
    · omega
    · exact apart high two
    · exact apart low (same ▸ one)
    · exact distinct low high held below one two

end Receives

/-- Where the first holder of a position is taken out and the position made room for, only the
tracks in between have moved. -/
theorem FirstHolder.raised_vacate {held : Nat} (first : list.FirstHolder holder position)
    (numbered : list.Numbered) : (list.vacate position).Raised position index held ↔
      list.Lowered holder position index held := by
  obtain ⟨old, _, vacated⟩ := first.vacate_eq
  have ahead := numbered.le_position first.holds
  rw [vacated, Raised]
  simp only [numbered.holds_take]
  constructor
  · rintro (⟨below, ⟨before, holds⟩ | ⟨after, holds⟩⟩ |
      ⟨behind, old, ⟨before, -⟩ | ⟨-, holds⟩, rfl⟩)
    · exact .inl ⟨before, holds⟩
    · exact .inr (.inl ⟨after, below, holds⟩)
    · omega
    · rw [Nat.sub_add_cancel (by omega)] at holds
      exact .inr (.inr ⟨behind, holds⟩)
  · rintro (⟨before, holds⟩ | ⟨after, below, holds⟩ | ⟨behind, holds⟩)
    · exact .inl ⟨by omega, .inl ⟨before, holds⟩⟩
    · exact .inl ⟨below, .inr ⟨after, holds⟩⟩
    · have above := numbered.le_position holds
      refine .inr ⟨behind, held - 1, .inr ⟨by omega, ?_⟩, by omega⟩
      rwa [Nat.sub_add_cancel (by omega), Nat.sub_add_cancel (by omega)]

/-- A free position stays free for the new track. -/
theorem Free.not_raised (free : list.Free position) (numbered : list.Numbered) (index : Nat) :
    ¬ list.Raised position index position := by
  rintro (⟨-, holds⟩ | ⟨behind, old, holds, up⟩)
  · exact free index holds
  · have above := numbered.le_position holds
    omega

/-- A track takes the position of a replaced one when it had the next position and moves down. -/
theorem FirstHolder.lowered_iff (first : list.FirstHolder holder position)
    (numbered : list.Numbered) : (∃ index, list.Lowered holder position index position) ↔
      list.Adjoins (· = holder) fun index => holder < index ∧ index ≤ position := by
  constructor
  · rintro ⟨index, ⟨before, holds⟩ | ⟨after, below, next⟩ | ⟨behind, holds⟩⟩
    · exact absurd holds (first.first index before)
    · exact ⟨holder, index + 1, position, rfl, by omega, first.holds, next⟩
    · have above := numbered.le_position holds
      omega
  · rintro ⟨_, high, held, rfl, ⟨after, reached⟩, holds, next⟩
    obtain rfl := first.holds.unique holds
    exact ⟨high - 1, .inr (.inl ⟨by omega, by omega, next.behind (by omega)⟩)⟩

/-- No other track gets the position that a track is inserted at, unless the first holder of that
position is followed, up to the index of the new track, by a holder of the next position. -/
theorem Numbered.insertAt_alone (numbered : list.Numbered) (position : Nat) (track : Track) :
    ∃ after canonical, list.insertAt position track = .ok (after, canonical) ∧
      after.tracks[canonical]? = some (list.kept { track with position := some position }) ∧
        ((∀ index, after.Holds index position → index = canonical) ↔
          ¬ ∃ holder, list.FirstHolder holder position ∧
            list.Adjoins (· = holder) fun index => holder < index ∧ index ≤ position) := by
  obtain ⟨after, canonical, received⟩ := numbered.receives position track
  refine ⟨after, canonical, received.inserted, received.found, received.alone_iff.trans ?_⟩
  rcases list.free_or_firstHolder position with free | ⟨holder, first⟩
  · rw [free.vacate_eq]
    refine iff_of_true (free.not_raised numbered) ?_
    rintro ⟨holder, first, _⟩
    exact free holder first.holds
  · simp only [first.raised_vacate numbered]
    rw [← not_exists, first.lowered_iff numbered, not_iff_not]
    refine ⟨fun adjoins => ⟨holder, first, adjoins⟩, ?_⟩
    rintro ⟨other, again, adjoins⟩
    rwa [first.unique again]

/-! ### Calls that number tracks -/

/-- A call that gives positions to tracks. -/
inductive Edit where
  | insertAt (position : Nat) (track : Track)
  | removeAt (index : Nat)

/-- The call among all operations on a list. -/
def Edit.operation : Edit → Operation
  | .insertAt position track => .insertAt position track
  | .removeAt index => .removeAt index

/-- One of two tracks with consecutive positions is moved by a call, towards the other, which is
not.  Behind a free position tracks are moved up.  Between a replaced track and its replacement they
are moved down, as they are behind a removed one. -/
def Collides (list : TrackList) : Edit → Prop
  | .insertAt position _ =>
      (list.Free position ∧ list.Adjoins (position ≤ ·) (· < position)) ∨
        ∃ holder, list.FirstHolder holder position ∧
          list.Adjoins (fun index => index ≤ holder ∨ position < index)
            fun index => holder < index ∧ index ≤ position
  | .removeAt index =>
      ∃ canonical, list.visible[index]? = some canonical ∧
        list.Adjoins (· < canonical) (canonical < ·)

/-- Taking a track away brings two others together when one is ahead of it and the other behind. -/
theorem Numbered.distinct_take (numbered : list.Numbered) (distinct : list.Distinct)
    (canonical : Nat) (track : Track) :
    (list.take canonical track).Distinct ↔ ¬ list.Adjoins (· < canonical) (canonical < ·) := by
  constructor
  · rintro apart ⟨low, high, position, before, behind, holds, next⟩
    refine apart low (high - 1) position (by omega) ?_ ?_
    · exact numbered.holds_take.mpr (.inl ⟨before, holds⟩)
    · exact numbered.holds_take.mpr (.inr ⟨by omega, next.behind (by omega)⟩)
  · intro apart low high position below holds again
    rcases numbered.holds_take.mp holds with ⟨before, holds⟩ | ⟨after, holds⟩ <;>
      rcases numbered.holds_take.mp again with ⟨also, again⟩ | ⟨behind, again⟩
    · exact distinct low high position below holds again
    · exact apart ⟨low, high + 1, position, before, by omega, holds, again⟩
    · omega
    · exact distinct (low + 1) (high + 1) (position + 1) (by omega) holds again

/-- Making room brings two tracks together when the lower one is moved up and the other is not. -/
theorem Free.distinct_insertAt (free : list.Free position) (numbered : list.Numbered)
    (distinct : list.Distinct) (track : Track) :
    (list.perform (.insertAt position track)).Distinct ↔
      ¬ list.Adjoins (position ≤ ·) (· < position) := by
  obtain ⟨after, canonical, received⟩ := numbered.receives position track
  simp only [perform, received.inserted, afterCall]
  rw [received.distinct_iff, free.vacate_eq, and_iff_right (free.not_raised numbered)]
  constructor
  · rintro apart ⟨low, high, held, above, below, holds, next⟩
    refine apart high (low + 1) (held + 1) (by omega) (.inl ⟨below, next⟩) ?_
    exact .inr ⟨by omega, held, holds, rfl⟩
  · rintro apart low high held below (⟨before, holds⟩ | ⟨behind, old, holds, rfl⟩)
      (⟨also, again⟩ | ⟨after, older, again, up⟩)
    · exact distinct low high held below holds again
    · exact apart ⟨high - 1, low, older, by omega, before, again, up ▸ holds⟩
    · omega
    · obtain rfl : old = older := by omega
      exact distinct (low - 1) (high - 1) old (by omega) holds again

/-- Replacing a track brings two others together, or one and the new track, when the higher one is
moved down and the other is not. -/
theorem FirstHolder.distinct_insertAt (first : list.FirstHolder holder position)
    (numbered : list.Numbered) (distinct : list.Distinct) (track : Track) :
    (list.perform (.insertAt position track)).Distinct ↔
      ¬ list.Adjoins (fun index => index ≤ holder ∨ position < index)
        fun index => holder < index ∧ index ≤ position := by
  have ahead := numbered.le_position first.holds
  obtain ⟨after, canonical, received⟩ := numbered.receives position track
  simp only [perform, received.inserted, afterCall]
  simp only [received.distinct_iff, first.raised_vacate numbered]
  rw [← not_exists, first.lowered_iff numbered]
  constructor
  · rintro ⟨alone, apart⟩ ⟨low, high, held, outside, ⟨after, reached⟩, holds, next⟩
    have moved : list.Lowered holder position (high - 1) held :=
      .inr (.inl ⟨by omega, by omega, next.behind (by omega)⟩)
    rcases outside with ahead | behind
    · rcases Nat.lt_or_eq_of_le ahead with before | rfl
      · exact apart low (high - 1) held (by omega) (.inl ⟨before, holds⟩) moved
      · exact alone ⟨low, high, held, rfl, ⟨after, reached⟩, holds, next⟩
    · exact apart (high - 1) low held (by omega) moved (.inr (.inr ⟨behind, holds⟩))
  · intro apart
    constructor
    · rintro ⟨low, high, held, rfl, between, holds, next⟩
      exact apart ⟨low, high, held, .inl (Nat.le_refl low), between, holds, next⟩
    · -- When both tracks were moved, or neither was, they shared a position before.
      rintro low high held below
        (⟨before, holds⟩ | ⟨after, reached, holds⟩ | ⟨behind, holds⟩)
        (⟨also, again⟩ | ⟨later, within, again⟩ | ⟨beyond, again⟩)
      · exact distinct low high held below holds again
      · exact apart ⟨low, high + 1, held, .inl (by omega), by omega, holds, again⟩
      · exact distinct low high held below holds again
      · omega
      · exact distinct (low + 1) (high + 1) (held + 1) (by omega) holds again
      · exact apart ⟨high, low + 1, held, .inr beyond, by omega, again, holds⟩
      · omega
      · omega
      · exact distinct low high held below holds again

/-- Removing a visible track takes it out, and any other removal is refused. -/
theorem removeAt_cases (editable : list.readOnly = false) (index : Nat) :
    (∃ canonical track, list.visible[index]? = some canonical ∧ canonical < list.tracks.length ∧
      list.perform (.removeAt index) = list.take canonical track) ∨
        (∀ canonical, list.visible[index]? = some canonical → list.tracks.length ≤ canonical) ∧
          list.perform (.removeAt index) = list := by
  simp only [perform, removeAt, editable]
  cases shown : list.visible[index]? with
  | none => exact .inr ⟨by simp, rfl⟩
  | some canonical =>
    cases found : list.tracks[canonical]? with
    | none =>
      refine .inr ⟨?_, ?_⟩
      · rintro _ ⟨⟩
        exact List.getElem?_eq_none_iff.mp found
      · simp [takeAt?, found, afterCall]
    | some track =>
      refine .inl ⟨canonical, track, rfl, (List.getElem?_eq_some_iff.mp found).1, ?_⟩
      simp [takeAt?, found, afterCall]

/-- What one call does to a numbered list. -/
theorem Numbered.perform (numbered : list.Numbered) (edit : Edit) :
    (list.perform edit.operation).Numbered := by
  cases edit with
  | insertAt position track =>
    obtain ⟨after, canonical, received⟩ := numbered.receives position track
    simp only [Edit.operation, TrackList.perform, received.inserted, afterCall]
    exact received.numbered
  | removeAt index =>
    rcases removeAt_cases numbered.editable index with ⟨canonical, track, _, inside, taken⟩ | kept
    · simpa only [Edit.operation, taken] using numbered.take inside track
    · simpa only [Edit.operation, kept.2] using numbered

/-- Positions that are distinct stay so, unless the call brings two tracks together. -/
theorem Numbered.distinct_perform (numbered : list.Numbered) (distinct : list.Distinct)
    (edit : Edit) : (list.perform edit.operation).Distinct ↔ ¬ list.Collides edit := by
  cases edit with
  | insertAt position track =>
    simp only [Edit.operation, Collides]
    rcases list.free_or_firstHolder position with free | ⟨holder, first⟩
    · rw [free.distinct_insertAt numbered distinct, not_iff_not]
      refine ⟨fun adjoins => .inl ⟨free, adjoins⟩, ?_⟩
      rintro (⟨_, adjoins⟩ | ⟨holder, first, _⟩)
      · exact adjoins
      · exact absurd first.holds (free holder)
    · rw [first.distinct_insertAt numbered distinct, not_iff_not]
      refine ⟨fun adjoins => .inr ⟨holder, first, adjoins⟩, ?_⟩
      rintro (⟨free, _⟩ | ⟨other, again, adjoins⟩)
      · exact absurd first.holds (free holder)
      · rwa [first.unique again]
  | removeAt index =>
    simp only [Edit.operation, Collides]
    rcases removeAt_cases numbered.editable index with
      ⟨canonical, track, shown, _, taken⟩ | ⟨outside, refused⟩
    · rw [taken, numbered.distinct_take distinct, not_iff_not]
      refine ⟨fun adjoins => ⟨canonical, shown, adjoins⟩, ?_⟩
      rintro ⟨_, again, adjoins⟩
      rwa [Option.some_inj.mp (shown.symm.trans again)]
    · rw [refused]
      refine iff_of_true distinct ?_
      rintro ⟨canonical, shown, _, high, _, _, behind, _, next⟩
      have beyond := outside canonical shown
      have bound := next.lt_length
      omega

/-! ### Runs of calls -/

/-- The list after a run of calls. -/
def edited (start : TrackList) (edits : List Edit) : TrackList :=
  edits.foldl (fun list edit => list.perform edit.operation) start

@[simp] theorem edited_concat (start : TrackList) (edits : List Edit) (edit : Edit) :
    start.edited (edits ++ [edit]) = (start.edited edits).perform edit.operation := by
  simp [edited]

theorem Numbered.edited (numbered : list.Numbered) (edits : List Edit) :
    (list.edited edits).Numbered := by
  induction edits using List.reverseRecOn with
  | nil => exact numbered
  | append_singleton edits edit ih =>
    rw [edited_concat]
    exact ih.perform edit

/-- Positions are distinct all along a run exactly when no call of it brings two tracks together. -/
theorem Numbered.distinct_edited (numbered : list.Numbered) (distinct : list.Distinct)
    (edits : List Edit) : (∀ earlier, earlier <+: edits → (list.edited earlier).Distinct) ↔
      ∀ earlier edit, earlier ++ [edit] <+: edits → ¬ (list.edited earlier).Collides edit := by
  induction edits using List.reverseRecOn with
  | nil =>
    refine iff_of_true ?_ ?_
    · intro earlier before
      rwa [List.prefix_nil.mp before]
    · intro earlier edit before
      simp at before
  | append_singleton edits last ih =>
    have prefixes : (∀ earlier, earlier <+: edits ++ [last] → (list.edited earlier).Distinct) ↔
        (∀ earlier, earlier <+: edits → (list.edited earlier).Distinct) ∧
          (list.edited (edits ++ [last])).Distinct := by
      simp only [List.prefix_concat_iff, or_imp, forall_and, forall_eq, and_comm]
    have calls : (∀ earlier edit, earlier ++ [edit] <+: edits ++ [last] →
        ¬ (list.edited earlier).Collides edit) ↔
          (∀ earlier edit, earlier ++ [edit] <+: edits → ¬ (list.edited earlier).Collides edit) ∧
            ¬ (list.edited edits).Collides last := by
      simp only [List.prefix_concat_iff, or_imp, forall_and, List.append_singleton_inj, and_imp,
        forall_eq, and_comm]
    rw [prefixes, calls, ← ih, edited_concat]
    refine and_congr_right fun apart => ?_
    exact (numbered.edited edits).distinct_perform (apart edits (List.prefix_refl edits)) last

/-- Without gaps, that is when no track is inserted behind the end, lists stay dense. -/
theorem Dense.edited (dense : list.Dense) (edits : List Edit)
    (gapless : ∀ earlier position track, earlier ++ [.insertAt position track] <+: edits →
      position ≤ (list.edited earlier).tracks.length) : (list.edited edits).Dense := by
  induction edits using List.reverseRecOn with
  | nil => exact dense
  | append_singleton edits edit ih =>
    have before := ih fun earlier position track reached =>
      gapless earlier position track (reached.trans (List.prefix_append edits [edit]))
    rw [edited_concat]
    cases edit with
    | insertAt position track =>
      exact before.perform (.insertAt position track)
        (gapless edits position track (List.prefix_refl _))
    | removeAt index => exact before.perform (.removeAt index) trivial

/-- Positions along a run of insertions and removals that starts without tracks.  They stay distinct
exactly as long as no call brings two tracks together, and so for every run that leaves no gaps.
Every insertion succeeds and gives the track its position; another track has that position
afterwards only if it had the next one, and was moved down from behind the replaced track.
Positions have no limit here: what becomes of one that moves up past 64 bits is left out. -/
theorem positions_edited {start : TrackList} (empty : start.tracks = [])
    (editable : start.readOnly = false) (edits : List Edit) :
    ((∀ earlier, earlier <+: edits → (start.edited earlier).Distinct) ↔
        ∀ earlier edit, earlier ++ [edit] <+: edits → ¬ (start.edited earlier).Collides edit) ∧
      ((∀ earlier position track, earlier ++ [.insertAt position track] <+: edits →
          position ≤ (start.edited earlier).tracks.length) → (start.edited edits).Distinct) ∧
        ∀ position track, ∃ after canonical,
          (start.edited edits).insertAt position track = .ok (after, canonical) ∧
            after.tracks[canonical]? =
              some ((start.edited edits).kept { track with position := some position }) ∧
              ((∀ index, after.Holds index position → index = canonical) ↔
                ¬ ∃ holder, (start.edited edits).FirstHolder holder position ∧
                  (start.edited edits).Adjoins (· = holder)
                    fun index => holder < index ∧ index ≤ position) := by
  have numbered : start.Numbered := .of_empty empty editable
  have dense : start.Dense := by
    intro index inside
    rw [empty] at inside
    exact absurd inside (Nat.not_lt_zero index)
  refine ⟨numbered.distinct_edited dense.distinct edits, ?_, ?_⟩
  · exact fun gapless => (dense.edited edits gapless).distinct
  · exact (numbered.edited edits).insertAt_alone

/-- Three insertions, each at a position below the one before. -/
def descendingEdits : List Edit :=
  [.insertAt 3 { file := "a.ogg" }, .insertAt 2 { file := "b.ogg" },
    .insertAt 1 { file := "c.ogg" }]

/-- The last of them moves the second track up to the position of the first. -/
theorem positions_edited_descending :
    (edited {} (descendingEdits.take 2)).Collides (.insertAt 1 { file := "c.ogg" }) ∧
      ¬ ∀ earlier, earlier <+: descendingEdits → (edited {} earlier).Distinct := by
  have collides :
      (edited {} (descendingEdits.take 2)).Collides (.insertAt 1 { file := "c.ogg" }) := by
    refine .inl ⟨findIdx?_position_eq_none.mp (by decide +kernel), 1, 0, 2, ?_⟩
    exact ⟨Nat.le_refl 1, Nat.one_pos, ⟨_, rfl, rfl⟩, ⟨_, rfl, rfl⟩⟩
  have empty : ({} : TrackList).tracks = [] := rfl
  obtain ⟨distinct, _⟩ := positions_edited empty rfl descendingEdits
  refine ⟨collides, fun apart => ?_⟩
  exact distinct.mp apart (descendingEdits.take 2) _ (List.prefix_refl descendingEdits) collides

/-- Inserting again at a position whose holder is followed by one of the next position. -/
theorem insertAt_not_alone_resent : ∃ one two three,
    insertAt {} 3 { file := "a.ogg" } = .ok (one, 0) ∧
      one.insertAt 4 { file := "b.ogg" } = .ok (two, 1) ∧
        two.insertAt 3 { file := "c.ogg" } = .ok (three, 1) ∧
          three.Holds 1 3 ∧ three.Holds 0 3 ∧ ¬ three.Distinct := by
  refine ⟨_, _, _, rfl, rfl, rfl, ⟨_, rfl, rfl⟩, ⟨_, rfl, rfl⟩, fun distinct => ?_⟩
  exact distinct 0 1 3 Nat.one_pos ⟨_, rfl, rfl⟩ ⟨_, rfl, rfl⟩

end TrackList

end TrackBrowser
