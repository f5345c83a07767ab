/-
Module: TrackBrowser.Proofs.TrackList.Totals
Purpose: The running totals of a list are the sums over its tracks, and none is ever cut off.
-/
import Mathlib.Algebra.Order.BigOperators.Group.List
import Mathlib.Data.List.Infix
import TrackBrowser.Proofs.TrackList.VisibleSequence

/-!
The three totals are adjusted where a track is placed, taken or flipped and where the visible
sequence is rebuilt, and they are computed anew where a list is loaded.  Durations are summed up in
64 bits, where a sum starts over at the limit, while subtraction stops at zero.  So what is stored
of a sum of durations is never more than the sum, and it is the sum itself as long as all durations
fit into 64 bits together.  `Stored` says both at once, `Counts` says it of the totals of a list and
some tracks, whatever their order, and a list is `Accounted` when its totals are those of its own
tracks and no hidden track is selected.  Every stage of an operation keeps that.

Subtraction that stops at zero could hide a total that has drifted.  `exactSums` is the guard under
which no subtraction is cut off at zero and no sum leaves the 64 bits of a count.
-/

namespace TrackBrowser

/-! ### Sums in 64 bits -/

/-- Starting over on the way comes to the same as starting over at the end. -/
theorem sumWrapping_eq (counts : List Nat) : sumWrapping counts = counts.sum % countLimit := by
  have from_start : ∀ start, counts.foldl addWrapping (start % countLimit) =
      (start + counts.sum) % countLimit := by
    induction counts with
    | nil => exact fun _ => rfl
    | cons count counts ih =>
      intro start
      rw [List.foldl_cons, addWrapping, Nat.mod_add_mod, ih, List.sum_cons, Nat.add_assoc]
  rw [sumWrapping, ← Nat.zero_mod countLimit, from_start, Nat.zero_add]

/-- What is stored of a sum is not more than the sum, and it is the sum where it has to be
exact. -/
structure Stored (exact : Prop) (stored sum : Nat) : Prop where
  le : stored ≤ sum
  eq : exact → stored = sum

namespace Stored

variable {exact weaker : Prop} {stored sum change : Nat}

theorem imp (stores : Stored exact stored sum) (implies : weaker → exact) :
    Stored weaker stored sum :=
  ⟨stores.le, fun holds => stores.eq (implies holds)⟩

theorem zero : Stored exact 0 0 :=
  ⟨Nat.le_refl 0, fun _ => rfl⟩

/-- What is stored of nothing is nothing. -/
theorem eq_zero (stores : Stored exact stored 0) : stored = 0 :=
  Nat.le_zero.mp stores.le

/-- A sum that fits is added exactly. -/
theorem add (stores : Stored exact stored sum) (fits : exact → sum + change < countLimit) :
    Stored exact (addWrapping stored change) (sum + change) where
  le := Nat.le_trans (Nat.mod_le _ _) (Nat.add_le_add_right stores.le change)
  eq := by
    intro holds
    rw [addWrapping, stores.eq holds, Nat.mod_eq_of_lt (fits holds)]

theorem subtract (stores : Stored exact stored (sum + change)) :
    Stored exact (stored - change) sum where
  le := Nat.sub_le_of_le_add stores.le
  eq := by
    intro holds
    rw [stores.eq holds, Nat.add_sub_cancel]

/-- A sum that fits is computed exactly. -/
theorem of_counts {counts : List Nat} (fits : exact → counts.sum < countLimit) :
    Stored exact (sumWrapping counts) counts.sum where
  le := by
    rw [sumWrapping_eq]
    exact Nat.mod_le _ _
  eq := by
    intro holds
    rw [sumWrapping_eq, Nat.mod_eq_of_lt (fits holds)]

end Stored

/-! ### Durations -/

namespace Track

@[simp] theorem seconds_shiftPosition (track : Track) (shift : Nat → Nat) :
    (track.shiftPosition shift).seconds = track.seconds := rfl

@[simp] theorem selected_deselected (track : Track) : track.deselected.selected = false := rfl

/-- Changes that keep each duration keep the durations of all tracks. -/
theorem map_seconds_map {change : Track → Track}
    (same : ∀ track, (change track).seconds = track.seconds) (tracks : List Track) :
    (tracks.map change).map seconds = tracks.map seconds := by
  rw [List.map_map]
  exact List.map_congr_left fun track _ => same track

/-- Selected tracks last no longer than all tracks. -/
theorem sum_selected_le (tracks : List Track) :
    ((tracks.filter (·.selected)).map seconds).sum ≤ (tracks.map seconds).sum :=
  (List.filter_sublist.map seconds).sum_le_sum fun _ _ => Nat.zero_le _

end Track

namespace TrackList

/-! ### Totals of a list -/

/-- The totals of a list are what is stored of the sums over some tracks. -/
structure Counts (exact : Prop) (list : TrackList) (tracks : List Track) : Prop where
  totalSeconds : Stored exact list.totalSeconds (tracks.map Track.seconds).sum
  selectedCount : list.selectedCount = (tracks.filter (·.selected)).length
  selectedSeconds : Stored exact list.selectedSeconds
    ((tracks.filter (·.selected)).map Track.seconds).sum

namespace Counts

variable {exact weaker : Prop} {list : TrackList} {tracks : List Track} {track : Track}

theorem imp (counts : list.Counts exact tracks) (implies : weaker → exact) :
    list.Counts weaker tracks :=
  ⟨counts.totalSeconds.imp implies, counts.selectedCount, counts.selectedSeconds.imp implies⟩

/-- Totals do not depend on the order of the tracks. -/
theorem perm (counts : list.Counts exact tracks) {others : List Track} (perm : others.Perm tracks) :
    list.Counts exact others where
  totalSeconds := by
    rw [(perm.map _).sum_nat]
    exact counts.totalSeconds
  selectedCount := by rw [counts.selectedCount, (perm.filter _).length_eq]
  selectedSeconds := by
    rw [((perm.filter _).map _).sum_nat]
    exact counts.selectedSeconds

/-- Totals do not depend on the positions of the tracks. -/
theorem shift {before after : List Track} (counts : list.Counts exact (before ++ after))
    (shift : Nat → Nat) : list.Counts exact (before ++ after.map (Track.shiftPosition shift)) := by
  have times : ∀ tracks : List Track,
      (tracks.map (Track.shiftPosition shift)).map Track.seconds = tracks.map Track.seconds :=
    Track.map_seconds_map fun track => track.seconds_shiftPosition shift
  have marks : (after.map (Track.shiftPosition shift)).filter (·.selected) =
      (after.filter (·.selected)).map (Track.shiftPosition shift) := List.filter_map
  constructor
  · rw [List.map_append, times, ← List.map_append]
    exact counts.totalSeconds
  · rw [List.filter_append, marks, List.length_append, List.length_map, ← List.length_append,
      ← List.filter_append]
    exact counts.selectedCount
  · rw [List.filter_append, marks, List.map_append, times, ← List.map_append, ← List.filter_append]
    exact counts.selectedSeconds

/-- Counting a track in. -/
theorem add (counts : list.Counts exact tracks) (track : Track)
    (fits : exact → ((track :: tracks).map Track.seconds).sum < countLimit) :
    (list.addTotals track).Counts exact (track :: tracks) := by
  simp only [List.map_cons, List.sum_cons, Nat.add_comm track.seconds] at fits
  constructor
  · rw [List.map_cons, List.sum_cons, Nat.add_comm]
    exact counts.totalSeconds.add fits
  · cases marked : track.selected with
    | true => simp [addTotals, marked, counts.selectedCount]
    | false => simp [addTotals, marked, counts.selectedCount]
  · cases marked : track.selected with
    | true =>
      have room : exact →
          ((tracks.filter (·.selected)).map Track.seconds).sum + track.seconds < countLimit :=
        fun holds => (Nat.add_le_add_right (Track.sum_selected_le tracks) _).trans_lt (fits holds)
      simpa [addTotals, marked, Nat.add_comm track.seconds] using counts.selectedSeconds.add room
    | false => simpa [addTotals, marked] using counts.selectedSeconds

/-- Counting a track out. -/
theorem subtract (counts : list.Counts exact (track :: tracks)) :
    (list.subtractTotals track).Counts exact tracks := by
  obtain ⟨totalSeconds, selectedCount, selectedSeconds⟩ := counts
  rw [List.map_cons, List.sum_cons, Nat.add_comm] at totalSeconds
  constructor
  · exact totalSeconds.subtract
  · cases marked : track.selected with
    | true => simp [subtractTotals, marked, selectedCount]
    | false => simp [subtractTotals, marked, selectedCount]
  · cases marked : track.selected with
    | true =>
      rw [List.filter_cons_of_pos marked, List.map_cons, List.sum_cons, Nat.add_comm]
        at selectedSeconds
      simpa [subtractTotals, marked] using selectedSeconds.subtract
    | false => simpa [subtractTotals, marked] using selectedSeconds

/-- Counting a track whose selection is flipped. -/
theorem flip (counts : list.Counts exact (track :: tracks)) {selected : Bool}
    (changes : track.selected ≠ selected) (canonical : Nat)
    (fits : exact → ((track :: tracks).map Track.seconds).sum < countLimit) :
    (list.flip canonical track selected).Counts exact
      ({ track with selected := selected } :: tracks) := by
  obtain ⟨totalSeconds, selectedCount, selectedSeconds⟩ := counts
  have time : Track.seconds { track with selected := selected } = track.seconds := rfl
  constructor
  · rw [List.map_cons, time, ← List.map_cons]
    exact totalSeconds
  · cases selected with
    | true =>
      have marked : track.selected = false := by simpa using changes
      simp [TrackList.flip, selectedCount, marked]
    | false =>
      have marked : track.selected = true := by simpa using changes
      simp [TrackList.flip, selectedCount, marked]
  · cases selected with
    | true =>
      have marked : track.selected = false := by simpa using changes
      rw [List.filter_cons_of_neg (by simp [marked])] at selectedSeconds
      have room : exact →
          ((tracks.filter (·.selected)).map Track.seconds).sum + track.seconds < countLimit := by
        intro holds
        have all := fits holds
        rw [List.map_cons, List.sum_cons, Nat.add_comm] at all
        exact (Nat.add_le_add_right (Track.sum_selected_le tracks) _).trans_lt all
      simpa [TrackList.flip, time, Nat.add_comm track.seconds] using selectedSeconds.add room
    | false =>
      have marked : track.selected = true := by simpa using changes
      rw [List.filter_cons_of_pos marked, List.map_cons, List.sum_cons, Nat.add_comm]
        at selectedSeconds
      simpa [TrackList.flip] using selectedSeconds.subtract

end Counts

@[simp] theorem seconds_kept (list : TrackList) (track : Track) :
    (list.kept track).seconds = track.seconds := by
  unfold kept
  split <;> rfl

/-- A track that a list keeps selected passes its filters. -/
theorem passes_of_selected_kept (list : TrackList) {track : Track}
    (marked : (list.kept track).selected = true) : list.passes track = true := by
  unfold kept at marked
  split at marked
  · assumption
  · cases marked

/-- A list keeps those tracks selected that pass its filters. -/
theorem filter_selected_map_kept (list : TrackList) (tracks : List Track) :
    (tracks.map list.kept).filter (·.selected) =
      (tracks.filter (·.selected)).filter list.passes := by
  induction tracks with
  | nil => rfl
  | cons track rest ih =>
    rw [List.map_cons, List.filter_cons, ih]
    cases passing : list.passes track with
    | true => cases marked : track.selected <;> simp [kept, marked, passing]
    | false => cases marked : track.selected <;> simp [kept, marked, passing]

/-- The selected tracks that a rebuild of the visible sequence hides. -/
def hiddenBy (list : TrackList) : List Track :=
  list.tracks.filter fun track => track.selected && !list.passes track

/-- The selected tracks are those that stay and those that a rebuild hides. -/
theorem passing_append_hiddenBy (list : TrackList) :
    ((list.tracks.filter (·.selected)).filter list.passes ++ list.hiddenBy).Perm
      (list.tracks.filter (·.selected)) := by
  have hidden : list.hiddenBy =
      (list.tracks.filter (·.selected)).filter fun track => !list.passes track := by
    rw [List.filter_filter]
    exact List.filter_congr fun track _ => Bool.and_comm _ _
  rw [hidden]
  exact List.filter_append_perm _ _

/-- The selected tracks that stay and those that a rebuild hides last as long as all selected
tracks. -/
theorem sum_passing_add_hiddenBy (list : TrackList) :
    (((list.tracks.filter (·.selected)).filter list.passes).map Track.seconds).sum +
        (list.hiddenBy.map Track.seconds).sum =
      ((list.tracks.filter (·.selected)).map Track.seconds).sum := by
  rw [← List.sum_append, ← List.map_append, (list.passing_append_hiddenBy.map _).sum_nat]

/-- Subtracting counts one after the other subtracts their sum. -/
theorem foldl_sub (counts : List Nat) (start : Nat) :
    counts.foldl (· - ·) start = start - counts.sum := by
  induction counts generalizing start with
  | nil => rfl
  | cons count rest ih => rw [List.foldl_cons, ih, Nat.sub_sub, List.sum_cons]

/-- A rebuild subtracts the durations of the tracks that it hides from that of the selection. -/
theorem selectedSeconds_rebuild (list : TrackList) (wasEmpty : Bool) :
    (list.rebuild wasEmpty).selectedSeconds =
      list.selectedSeconds - (list.hiddenBy.map Track.seconds).sum :=
  foldl_sub _ _

/-- A track whose selection its list accepts is kept as it is. -/
theorem kept_eq_self (list : TrackList) {track : Track}
    (passing : track.selected = true → list.passes track = true) : list.kept track = track := by
  unfold kept
  split
  · rfl
  · rename_i hidden
    have unmarked : track.selected = false := by
      cases marked : track.selected with
      | true => exact absurd (passing marked) hidden
      | false => rfl
    rw [Track.deselected, ← unmarked]

/-- A rebuild that hides no selected track changes the visible sequence only. -/
theorem rebuild_of_passing (list : TrackList) (wasEmpty : Bool)
    (passing : ∀ track ∈ list.tracks, track.selected = true → list.passes track = true) :
    list.rebuild wasEmpty = { list with visible := list.passingIndices }.settle wasEmpty := by
  have same : list.tracks.map list.kept = list.tracks :=
    (List.map_congr_left fun track member => list.kept_eq_self (passing track member)).trans
      (List.map_id' list.tracks)
  have dropped : list.hiddenBy = [] := by
    refine List.filter_eq_nil_iff.mpr ?_
    intro track member hidden
    obtain ⟨marked, hidden⟩ := Bool.and_eq_true_iff.mp hidden
    rw [passing track member marked] at hidden
    cases hidden
  have rebuilt : list.rebuild wasEmpty =
      { list with
        tracks := list.tracks.map list.kept
        visible := list.passingIndices
        selectedCount := list.selectedCount - list.hiddenBy.length
        selectedSeconds :=
          (list.hiddenBy.map Track.seconds).foldl (· - ·) list.selectedSeconds }.settle wasEmpty :=
    rfl
  rw [rebuilt, same, dropped]
  rfl

section Rebuild

variable {exact : Prop} {list : TrackList}

/-- Rebuilding the visible sequence counts out the tracks that it deselects. -/
theorem Counts.rebuild (counts : list.Counts exact list.tracks) (wasEmpty : Bool) :
    (list.rebuild wasEmpty).Counts exact (list.rebuild wasEmpty).tracks := by
  rw [rebuild_tracks]
  constructor
  · rw [Track.map_seconds_map list.seconds_kept]
    exact counts.totalSeconds
  · have counted : (list.rebuild wasEmpty).selectedCount =
        list.selectedCount - list.hiddenBy.length := rfl
    have sum := list.passing_append_hiddenBy.length_eq
    rw [List.length_append] at sum
    rw [counted, counts.selectedCount, filter_selected_map_kept, ← sum, Nat.add_sub_cancel]
  · have selected := counts.selectedSeconds
    rw [← list.sum_passing_add_hiddenBy] at selected
    rw [filter_selected_map_kept, list.selectedSeconds_rebuild]
    exact selected.subtract

/-- The tracks that a rebuild deselects are what the totals of the selection go down by. -/
theorem Counts.rebuild_hiddenBy (counts : list.Counts exact list.tracks) (wasEmpty : Bool) :
    list.selectedCount = (list.rebuild wasEmpty).selectedCount + list.hiddenBy.length ∧
      (exact → list.selectedSeconds =
        (list.rebuild wasEmpty).selectedSeconds + (list.hiddenBy.map Track.seconds).sum) := by
  have after := counts.rebuild wasEmpty
  constructor
  · rw [after.selectedCount, rebuild_tracks, filter_selected_map_kept, ← List.length_append,
      list.passing_append_hiddenBy.length_eq, counts.selectedCount]
  · intro holds
    rw [after.selectedSeconds.eq holds, rebuild_tracks, filter_selected_map_kept,
      list.sum_passing_add_hiddenBy, counts.selectedSeconds.eq holds]

end Rebuild

/-- The second list has the tracks of the first, selections included, and the same totals. -/
structure SameTracks (before after : TrackList) : Prop where
  tracks : after.tracks = before.tracks
  totalSeconds : after.totalSeconds = before.totalSeconds
  selectedCount : after.selectedCount = before.selectedCount
  selectedSeconds : after.selectedSeconds = before.selectedSeconds

/-- Lists with the same tracks have the same totals if both count them rightly. -/
theorem Counts.sameTracks {exact : Prop} {before after : TrackList}
    (first : before.Counts exact before.tracks) (second : after.Counts exact after.tracks)
    (holds : exact) (tracks : after.tracks = before.tracks) : SameTracks before after := by
  rw [tracks] at second
  exact ⟨tracks,
    (second.totalSeconds.eq holds).trans (first.totalSeconds.eq holds).symm,
    second.selectedCount.trans first.selectedCount.symm,
    (second.selectedSeconds.eq holds).trans (first.selectedSeconds.eq holds).symm⟩

/-! ### The invariant -/

/-- The totals of a list are those of its tracks, and its selected tracks pass its filters. -/
structure Accounted (exact : Prop) (list : TrackList) : Prop where
  counts : list.Counts exact list.tracks
  passing : ∀ track ∈ list.tracks, track.selected = true → list.passes track = true

variable {exact weaker : Prop} {operation : Operation} {start list : TrackList}

/-- The totals are right before a rebuild, even where selected tracks are about to be hidden. -/
theorem Draft.counts (accounted : start.Accounted exact) (draft : Draft operation start list)
    (fits : exact → (list.tracks.map Track.seconds).sum < countLimit) :
    list.Counts exact list.tracks := by
  cases draft with
  | load tracks =>
    exact ⟨.of_counts fits, rfl,
      .of_counts fun holds => (Track.sum_selected_le tracks).trans_lt (fits holds)⟩
  | reorder perm =>
    have moved := accounted.counts.perm perm
    exact ⟨moved.totalSeconds, moved.selectedCount, moved.selectedSeconds⟩
  | narrow fewer =>
    have same := accounted.counts
    exact ⟨same.totalSeconds, same.selectedCount, same.selectedSeconds⟩
  | extend called =>
    have same := accounted.counts
    exact ⟨same.totalSeconds, same.selectedCount, same.selectedSeconds⟩

/-- A track and the others are all tracks. -/
theorem cons_eraseIdx_perm {canonical : Nat} {track : Track}
    (found : list.tracks[canonical]? = some track) :
    (track :: list.tracks.eraseIdx canonical).Perm list.tracks := by
  obtain ⟨inside, rfl⟩ := List.getElem?_eq_some_iff.mp found
  exact List.getElem_cons_eraseIdx_perm inside

/-- Whether selected tracks pass does not depend on their positions. -/
theorem passing_shift {before after : List Track} (shift : Nat → Nat)
    (passing : ∀ track ∈ before ++ after, track.selected = true → list.passes track = true) :
    ∀ track ∈ before ++ after.map (Track.shiftPosition shift), track.selected = true →
      list.passes track = true := by
  intro track member marked
  rcases List.mem_append.mp member with kept | shifted
  · exact passing track (List.mem_append_left _ kept) marked
  · obtain ⟨old, there, rfl⟩ := List.mem_map.mp shifted
    rw [list.passes_congr (old.text_shiftPosition _)]
    exact passing old (List.mem_append_right _ there) marked

/-- No track comes before the end of an operation, so the tracks last no longer than at its
start. -/
theorem Stage.sum_seconds_le (stage : Stage start list) :
    (list.tracks.map Track.seconds).sum ≤ (start.tracks.map Track.seconds).sum := by
  have shifted : ∀ (shift : Nat → Nat) (before after : List Track),
      ((before ++ after.map (Track.shiftPosition shift)).map Track.seconds).sum =
        ((before ++ after).map Track.seconds).sum := by
    intro shift before after
    rw [List.map_append, Track.map_seconds_map fun track => track.seconds_shiftPosition shift,
      ← List.map_append]
  induction stage with
  | start | steer => exact Nat.le_refl _
  | adjust _ _ _ _ _ _ _ ih => exact ih
  | @take list canonical _ _ _ ih =>
    refine Nat.le_trans ?_ ih
    rw [take_tracks, shifted, ← List.eraseIdx_eq_take_drop_succ]
    exact ((List.eraseIdx_sublist _ _).map _).sum_le_sum fun _ _ => Nat.zero_le _
  | shift _ canonical ih =>
    rw [shiftFrom_tracks, shifted, List.take_append_drop]
    exact ih
  | @flip list _ _ track selected _ _ found _ ih =>
    have time : Track.seconds { track with selected := selected } = track.seconds := rfl
    rw [flip_tracks, map_set_of_same Track.seconds found time]
    exact ih
  | clear => exact Nat.zero_le _

namespace Accounted

theorem imp (accounted : list.Accounted exact) (implies : weaker → exact) :
    list.Accounted weaker :=
  ⟨accounted.counts.imp implies, accounted.passing⟩

theorem empty : Accounted exact {} := by
  constructor
  · exact ⟨.zero, rfl, .zero⟩
  · intro track member
    cases member

/-- A list without tracks has counted none, whatever it has counted before. -/
theorem of_tracks_nil (accounted : list.Accounted weaker) (none : list.tracks = []) :
    list.Accounted exact := by
  obtain ⟨⟨totalSeconds, selectedCount, selectedSeconds⟩, passing⟩ := accounted
  rw [none] at totalSeconds selectedCount selectedSeconds
  refine ⟨?_, passing⟩
  rw [none]
  exact ⟨⟨totalSeconds.le, fun _ => totalSeconds.eq_zero⟩, selectedCount,
    ⟨selectedSeconds.le, fun _ => selectedSeconds.eq_zero⟩⟩

/-- The tracks after one is placed are it and those before. -/
theorem tracks_place_perm {canonical : Nat} (inside : canonical ≤ list.tracks.length)
    (track : Track) :
    (list.place canonical track).tracks.Perm (list.kept track :: list.tracks) :=
  List.perm_insertIdx (list.kept track) list.tracks inside

theorem place {canonical : Nat} (accounted : list.Accounted exact)
    (inside : canonical ≤ list.tracks.length) (track : Track)
    (fits : exact → ((list.place canonical track).tracks.map Track.seconds).sum < countLimit) :
    (list.place canonical track).Accounted exact := by
  have perm := tracks_place_perm inside track
  constructor
  · rw [(perm.map _).sum_nat] at fits
    have counted := (accounted.counts.add (list.kept track) fits).perm perm
    exact ⟨counted.totalSeconds, counted.selectedCount, counted.selectedSeconds⟩
  · intro other member marked
    rw [passes_place]
    rcases List.mem_cons.mp (perm.mem_iff.mp member) with rfl | old
    · rw [passes_kept]
      exact list.passes_of_selected_kept marked
    · exact accounted.passing other old marked

theorem take {canonical : Nat} {track : Track} (accounted : list.Accounted exact)
    (found : list.tracks[canonical]? = some track) :
    (list.take canonical track).Accounted exact := by
  have rest := list.tracks.eraseIdx_eq_take_drop_succ canonical
  constructor
  · have counted := (accounted.counts.perm (cons_eraseIdx_perm found)).subtract
    rw [rest] at counted
    have moved := counted.shift (· - 1)
    exact ⟨moved.totalSeconds, moved.selectedCount, moved.selectedSeconds⟩
  · apply list.passing_shift (· - 1)
    intro other member marked
    rw [← rest] at member
    exact accounted.passing other (List.mem_of_mem_eraseIdx member) marked

theorem shiftFrom (accounted : list.Accounted exact) (canonical : Nat) :
    (list.shiftFrom canonical).Accounted exact := by
  have parts := List.take_append_drop canonical list.tracks
  constructor
  · have counted := accounted.counts
    rw [← parts] at counted
    have moved := counted.shift (· + 1)
    exact ⟨moved.totalSeconds, moved.selectedCount, moved.selectedSeconds⟩
  · apply list.passing_shift (· + 1)
    intro other member marked
    rw [parts] at member
    exact accounted.passing other member marked

/-- A visible track may be selected, since it passes the filters. -/
theorem flip {canonical : Nat} {track : Track} {selected : Bool}
    (accounted : list.Accounted exact) (coherent : list.Coherent) (shown : canonical ∈ list.visible)
    (found : list.tracks[canonical]? = some track) (changes : track.selected ≠ selected)
    (fits : exact → (list.tracks.map Track.seconds).sum < countLimit) :
    (list.flip canonical track selected).Accounted exact := by
  have inside := (List.getElem?_eq_some_iff.mp found).1
  have perm := cons_eraseIdx_perm found
  constructor
  · rw [← (perm.map _).sum_nat] at fits
    have counted := (accounted.counts.perm perm).flip changes canonical fits
    rw [flip_tracks]
    exact counted.perm (List.set_perm_cons_eraseIdx inside _)
  · intro other member marked
    rw [flip_tracks] at member
    rw [passes_flip]
    rcases List.mem_or_eq_of_mem_set member with old | rfl
    · exact accounted.passing other old marked
    · rw [list.passes_congr (track.text_withSelection selected)]
      obtain ⟨holder, there, passing⟩ := (coherent.mem_visible canonical).mp shown
      rw [found] at there
      cases there
      exact passing

theorem rebuild (counts : list.Counts exact list.tracks) (wasEmpty : Bool) :
    (list.rebuild wasEmpty).Accounted exact := by
  constructor
  · exact counts.rebuild wasEmpty
  · intro track member marked
    rw [rebuild_tracks] at member
    obtain ⟨old, _, rfl⟩ := List.mem_map.mp member
    rw [passes_rebuild, passes_kept]
    exact list.passes_of_selected_kept marked

/-- Every stage of an operation on an accounted list is accounted. -/
theorem stage (accounted : start.Accounted exact) (coherent : start.Coherent)
    (fits : exact → (start.tracks.map Track.seconds).sum < countLimit)
    (stage : Stage start list) : list.Accounted exact := by
  induction stage with
  | start => exact accounted
  | adjust _ _ _ _ _ _ _ ih =>
    exact ⟨⟨ih.counts.totalSeconds, ih.counts.selectedCount, ih.counts.selectedSeconds⟩, ih.passing⟩
  | steer command redraw =>
    have counts := accounted.counts
    exact ⟨⟨counts.totalSeconds, counts.selectedCount, counts.selectedSeconds⟩, accounted.passing⟩
  | take _ found ih => exact ih.take found
  | shift _ canonical ih => exact ih.shiftFrom canonical
  | flip stage shown found changes ih =>
    exact ih.flip (coherent.stage stage) (List.mem_of_getElem? shown) found changes
      fun holds => stage.sum_seconds_le.trans_lt (fits holds)
  | clear =>
    constructor
    · exact ⟨.zero, rfl, .zero⟩
    · intro track member
      cases member

/-- An operation on an accounted list ends with an accounted list. -/
theorem outcome (accounted : start.Accounted exact) (coherent : start.Coherent)
    (before : exact → (start.tracks.map Track.seconds).sum < countLimit)
    (after : exact → (list.tracks.map Track.seconds).sum < countLimit)
    (outcome : Outcome operation start list) : list.Accounted exact := by
  cases outcome with
  | stage stage => exact accounted.stage coherent before stage
  | place stage inside => exact (accounted.stage coherent before stage).place inside _ after
  | rebuild draft =>
    rw [rebuild_tracks, Track.map_seconds_map (seconds_kept _)] at after
    exact Accounted.rebuild (draft.counts accounted after) _

end Accounted

/-- Along a run, the durations of the tracks always fit into 64 bits together. -/
def Fits (operations : List Operation) : Prop :=
  ∀ earlier, earlier <+: operations →
    ((run earlier).tracks.map Track.seconds).sum < countLimit

/-- Whether durations fit along a run can be tried out, as a run has finitely many beginnings. -/
theorem Fits.of_inits {operations : List Operation}
    (each : ∀ earlier ∈ operations.inits,
      ((run earlier).tracks.map Track.seconds).sum < countLimit) : Fits operations :=
  fun earlier part => each earlier ((List.mem_inits _ _).mpr part)

theorem Fits.of_prefix {earlier operations : List Operation} (fits : Fits operations)
    (part : earlier <+: operations) : Fits earlier :=
  fun first within => fits first (within.trans part)

/-- Every run leads to an accounted list, whose totals are exact if the durations always fit. -/
theorem Accounted.run (operations : List Operation) :
    (TrackList.run operations).Accounted (Fits operations) := by
  induction operations using List.reverseRecOn with
  | nil => exact empty
  | append_singleton operations operation ih =>
    have part : operations <+: operations ++ [operation] := List.prefix_append _ _
    have after (fits : Fits (operations ++ [operation])) := fits _ (List.prefix_refl _)
    rw [run_concat] at after ⊢
    exact (ih.imp fun fits => fits.of_prefix part).outcome (Coherent.run operations)
      (fun fits => fits operations part) after (outcome_perform operation _)

/-! ### No total is cut off -/

namespace Counts

variable {tracks : List Track} {track : Track}

/-- A track is no longer than all, and a selected one has been counted among the selected ones. -/
theorem seconds_le (counts : list.Counts True (track :: tracks)) :
    track.seconds ≤ list.totalSeconds ∧
      (track.selected = true →
        1 ≤ list.selectedCount ∧ track.seconds ≤ list.selectedSeconds) := by
  rw [counts.totalSeconds.eq trivial, counts.selectedCount, counts.selectedSeconds.eq trivial]
  constructor
  · rw [List.map_cons, List.sum_cons]
    exact Nat.le_add_right _ _
  · intro marked
    rw [List.filter_cons_of_pos marked, List.length_cons, List.map_cons, List.sum_cons]
    exact ⟨Nat.le_add_left _ _, Nat.le_add_right _ _⟩

/-- There is room for a track that is not selected yet. -/
theorem selectedSeconds_add_le (counts : list.Counts True (track :: tracks))
    (unmarked : track.selected = false) :
    list.selectedSeconds + track.seconds ≤ ((track :: tracks).map Track.seconds).sum := by
  have selected := Track.sum_selected_le tracks
  rw [counts.selectedSeconds.eq trivial, List.filter_cons_of_neg (by simp [unmarked]),
    List.map_cons, List.sum_cons]
  omega

end Counts

/-- Lets those changes through that cut off no total: nothing is subtracted from less, and each sum
stays within 64 bits, the sum over all tracks included that loading computes. -/
def exactSums : Guard := fun list change =>
  match change with
  | .place _ track =>
    let placed := if list.passes track then track else track.deselected
    decide (list.totalSeconds + placed.seconds < countLimit ∧
      (placed.selected = true → list.selectedSeconds + placed.seconds < countLimit))
  | .take canonical =>
    list.tracks[canonical]?.any fun track =>
      decide (track.seconds ≤ list.totalSeconds ∧
        (track.selected = true →
          1 ≤ list.selectedCount ∧ track.seconds ≤ list.selectedSeconds))
  | .mark canonical selected =>
    list.tracks[canonical]?.any fun track =>
      track.selected == selected ||
        if selected then decide (list.selectedSeconds + track.seconds < countLimit)
        else decide (1 ≤ list.selectedCount ∧ track.seconds ≤ list.selectedSeconds)
  | .rebuild =>
    decide ((list.tracks.map Track.seconds).sum < countLimit ∧
      list.hiddenBy.length ≤ list.selectedCount ∧
        (list.hiddenBy.map Track.seconds).sum ≤ list.selectedSeconds)

namespace Accounted

variable {canonical : Nat}

theorem exactSums_place {track : Track} (accounted : list.Accounted True)
    (inside : canonical ≤ list.tracks.length)
    (bounded : ((list.place canonical track).tracks.map Track.seconds).sum < countLimit) :
    exactSums list (.place canonical track) = true := by
  have counts := accounted.counts
  have selected := Track.sum_selected_le list.tracks
  rw [((tracks_place_perm inside track).map _).sum_nat, List.map_cons, List.sum_cons,
    Nat.add_comm] at bounded
  refine decide_eq_true ⟨?_, ?_⟩
  · rw [counts.totalSeconds.eq trivial]
    exact bounded
  · intro _
    rw [counts.selectedSeconds.eq trivial]
    exact (Nat.add_le_add_right selected _).trans_lt bounded

theorem exactSums_take (accounted : list.Accounted True) (inside : canonical < list.tracks.length) :
    exactSums list (.take canonical) = true := by
  have found := List.getElem?_eq_getElem inside
  have counts := accounted.counts.perm (cons_eraseIdx_perm found)
  simp only [exactSums, found, Option.any_some]
  exact decide_eq_true counts.seconds_le

theorem exactSums_mark (accounted : list.Accounted True) (inside : canonical < list.tracks.length)
    (bounded : (list.tracks.map Track.seconds).sum < countLimit) (selected : Bool) :
    exactSums list (.mark canonical selected) = true := by
  have found := List.getElem?_eq_getElem inside
  have perm := cons_eraseIdx_perm found
  have counts := accounted.counts.perm perm
  rw [← (perm.map _).sum_nat] at bounded
  simp only [exactSums, found, Option.any_some]
  cases marked : list.tracks[canonical].selected with
  | true =>
    cases selected with
    | true => rfl
    | false => exact decide_eq_true (counts.seconds_le.2 marked)
  | false =>
    cases selected with
    | true =>
      exact decide_eq_true (Nat.lt_of_le_of_lt (counts.selectedSeconds_add_le marked) bounded)
    | false => rfl

theorem exactSums_rebuild (counts : list.Counts True list.tracks)
    (bounded : (list.tracks.map Track.seconds).sum < countLimit) :
    exactSums list .rebuild = true := by
  have lengths := list.passing_append_hiddenBy.length_eq
  rw [List.length_append, ← counts.selectedCount] at lengths
  have sums := list.sum_passing_add_hiddenBy
  rw [← counts.selectedSeconds.eq trivial] at sums
  exact decide_eq_true ⟨bounded, by omega, by omega⟩

/-- Where the durations fit into 64 bits before and after an operation, none of its changes cuts a
total off. -/
theorem admits_exactSums (accounted : start.Accounted True) (coherent : start.Coherent)
    (before : (start.tracks.map Track.seconds).sum < countLimit)
    (after : ((start.perform operation).tracks.map Track.seconds).sum < countLimit) :
    Checked.Admits exactSums operation start where
  inside stage shown := (coherent.stage stage).inside shown
  place stage inside ends :=
    (accounted.stage coherent (fun _ => before) stage).exactSums_place inside (by rwa [← ends])
  take stage inside :=
    (accounted.stage coherent (fun _ => before) stage).exactSums_take inside
  mark selected marking shown :=
    (accounted.stage coherent (fun _ => before) marking.stage).exactSums_mark
      ((coherent.stage marking.stage).inside shown)
      (marking.stage.sum_seconds_le.trans_lt before) selected
  rebuild draft ends := by
    rw [ends, rebuild_tracks, Track.map_seconds_map (seconds_kept _)] at after
    exact exactSums_rebuild (draft.counts accounted fun _ => after) after

end Accounted

/-- As long as the durations of the tracks fit into 64 bits together, the totals of a list are the
sums over its tracks after every run, each selected track is visible, and no change of the run cuts
a total off. -/
theorem totals_run (operations : List Operation) (fits : Fits operations) :
    (run operations).totalSeconds = ((run operations).tracks.map Track.seconds).sum ∧
      (run operations).selectedCount =
        ((run operations).tracks.filter (·.selected)).length ∧
      (run operations).selectedSeconds =
        (((run operations).tracks.filter (·.selected)).map Track.seconds).sum ∧
      (∀ canonical track, (run operations).tracks[canonical]? = some track →
        track.selected = true → canonical ∈ (run operations).visible) ∧
      Checked.run exactSums operations = some (run operations) := by
  have accounted := Accounted.run operations
  have coherent := Coherent.run operations
  have counts := accounted.counts
  refine ⟨counts.totalSeconds.eq fits, counts.selectedCount, counts.selectedSeconds.eq fits, ?_, ?_⟩
  · intro canonical track found marked
    rw [coherent.mem_visible]
    exact ⟨track, found, accounted.passing track (List.mem_of_getElem? found) marked⟩
  · apply Checked.run_eq
    intro earlier operation part
    have within : earlier <+: operations := (List.prefix_append _ _).trans part
    have after := fits (earlier ++ [operation]) part
    rw [run_concat] at after
    exact ((Accounted.run earlier).imp fun _ => fits.of_prefix within).admits_exactSums
      (Coherent.run earlier) (fits earlier within) after

/-- A run on which a selection moves from one track to another before the first one is removed. -/
def toggledRun : List Operation :=
  [.append { file := "first.ogg", time := some 2, selected := true },
    .append { file := "second.ogg", time := some 3 },
    .selectAll .toggle,
    .removeAt 0]

/-- The totals of such a run. -/
theorem totals_toggledRun :
    Fits toggledRun ∧
      (run toggledRun).totalSeconds = 3 ∧ (run toggledRun).selectedCount = 1 ∧
        (run toggledRun).selectedSeconds = 3 ∧
          Checked.run exactSums toggledRun = some (run toggledRun) := by
  have fits : Fits toggledRun := .of_inits (by decide)
  obtain ⟨totalSeconds, selectedCount, selectedSeconds, _, exactly⟩ := totals_run toggledRun fits
  refine ⟨fits, ?_, ?_, ?_, exactly⟩
  · rw [totalSeconds]
    decide
  · rw [selectedCount]
    decide
  · rw [selectedSeconds]
    decide

end TrackList

end TrackBrowser
