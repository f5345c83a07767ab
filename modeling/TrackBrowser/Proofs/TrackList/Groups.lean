/-
Module: TrackBrowser.Proofs.TrackList.Groups
Purpose: Where moving by a group of equal values leads.
-/
import TrackBrowser.Proofs.Matching
import TrackBrowser.Proofs.TrackList.Arc
import TrackBrowser.Proofs.TrackList.VisibleSequence

/-!
Moving on by a group takes one search for a track that differs from the one under the cursor.  All
that the search passes is equal, so the track that it finds begins a run of equal values.

Moving back by a group takes two searches for a track that differs: one from the cursor for the end
of the previous run of equal values, one from there for the track before that run.  All of them use
the value of a track as a negated exact pattern, and an empty one passes every value, so that
nothing differs from it.  For the search before the previous run this matters: the value of the run
it starts in may be empty, and the run is then taken to reach the front of the list.
-/

namespace TrackBrowser

namespace TrackList

/-! ### Values and runs -/

/-- The value of a field at a visible index, with each character in lower case. -/
def foldedAt (list : TrackList) (field : Field) (index : Nat) : Option (List Char) :=
  (list.get? index).map fun track => foldText (track.text field)

/-- Going back from before the cursor, and around the front of the list where needed, `stop` is the
first index with another value than at the cursor. -/
def PreviousOther (list : TrackList) (field : Field) (cursor stop : Nat) : Prop :=
  ∃ steps, 0 < steps ∧ steps ≤ list.size ∧ stop = (cursor + list.size - steps) % list.size ∧
    list.foldedAt field stop ≠ list.foldedAt field cursor ∧
      ∀ fewer, 0 < fewer → fewer < steps →
        list.foldedAt field ((cursor + list.size - fewer) % list.size) =
          list.foldedAt field cursor

/-- Going on from behind the cursor, and around the end of the list where needed, `stop` is the
first index with another value than at the cursor. -/
def NextOther (list : TrackList) (field : Field) (cursor stop : Nat) : Prop :=
  ∃ steps, 0 < steps ∧ steps ≤ list.size ∧ stop = (cursor + steps) % list.size ∧
    list.foldedAt field stop ≠ list.foldedAt field cursor ∧
      ∀ fewer, 0 < fewer → fewer < steps →
        list.foldedAt field ((cursor + fewer) % list.size) = list.foldedAt field cursor

/-- There is one such index at most. -/
theorem NextOther.unique {list : TrackList} {field : Field} {cursor stop other : Nat}
    (next : list.NextOther field cursor stop) (again : list.NextOther field cursor other) :
    stop = other := by
  obtain ⟨steps, positive, _, rfl, differs, passed⟩ := next
  obtain ⟨turns, some_turns, _, rfl, differs_too, passed_too⟩ := again
  rcases Nat.lt_trichotomy steps turns with fewer | rfl | more
  · exact absurd (passed_too steps positive fewer) differs
  · rfl
  · exact absurd (passed turns some_turns more) differs_too

/-- The index before it is the cursor, or was passed as equal, so a run begins there. -/
theorem NextOther.begins {list : TrackList} {field : Field} {cursor stop : Nat}
    (next : list.NextOther field cursor stop) (inside : cursor < list.size) :
    stop = 0 ∨ list.foldedAt field (stop - 1) ≠ list.foldedAt field stop := by
  obtain ⟨steps, positive, few, rfl, differs, passed⟩ := next
  obtain ⟨fewer, rfl⟩ := Nat.exists_eq_succ_of_ne_zero (Nat.ne_of_gt positive)
  rcases Nat.eq_zero_or_pos ((cursor + (fewer + 1)) % list.size) with front | behind
  · exact .inl front
  have previous : (cursor + (fewer + 1)) % list.size - 1 = (cursor + fewer) % list.size := by
    have place := Nat.mod_lt (cursor + fewer) (Nat.zero_lt_of_lt inside)
    rw [← Nat.add_assoc, ← Nat.mod_add_mod] at behind ⊢
    rcases Nat.lt_or_eq_of_le (Nat.succ_le_of_lt place) with more | last
    · rw [Nat.mod_eq_of_lt more, Nat.succ_sub_one]
    · rw [← Nat.succ_eq_add_one, last, Nat.mod_self] at behind
      exact absurd behind (Nat.lt_irrefl 0)
  have same : list.foldedAt field ((cursor + fewer) % list.size) =
      list.foldedAt field cursor := by
    rcases Nat.eq_zero_or_pos fewer with rfl | some_steps
    · rw [Nat.add_zero, Nat.mod_eq_of_lt inside]
    · exact passed fewer some_steps (Nat.lt_succ_self fewer)
  refine .inr ?_
  rw [previous, same]
  exact differs.symm

/-- The run of equal values that ends at `stop` begins at `start`. -/
structure RunStart (list : TrackList) (field : Field) (start stop : Nat) : Prop where
  ordered : start ≤ stop
  same : ∀ index, start ≤ index → index ≤ stop →
    list.foldedAt field index = list.foldedAt field stop
  before : start = 0 ∨ list.foldedAt field (start - 1) ≠ list.foldedAt field stop

/-- A run begins at one index only. -/
theorem RunStart.unique {list : TrackList} {field : Field} {start other stop : Nat}
    (run : list.RunStart field start stop) (again : list.RunStart field other stop) :
    start = other := by
  -- The earlier beginning claims the track before the later one for the run.
  have notBefore : ∀ {first second : Nat}, list.RunStart field first stop →
      list.RunStart field second stop → ¬ first < second := by
    intro first second firstRun secondRun earlier
    rcases secondRun.before with front | differs
    · omega
    · have ordered := secondRun.ordered
      exact differs (firstRun.same (second - 1) (by omega) (by omega))
  exact Nat.le_antisymm (Nat.not_lt.mp (notBefore again run)) (Nat.not_lt.mp (notBefore run again))

/-! ### The two searches -/

/-- After the last hit below a bound nothing hits. -/
theorem find?_reverse_range_elim (hit : Nat → Bool) (bound : Nat) :
    let start := ((List.range bound).reverse.find? hit).elim 0 (· + 1)
    start ≤ bound ∧ (∀ index, start ≤ index → index < bound → hit index = false) ∧
      (start = 0 ∨ hit (start - 1) = true) := by
  induction bound with
  | zero => simp
  | succ bound ih =>
    rw [List.range_succ, List.reverse_append, List.reverse_singleton, List.singleton_append,
      List.find?_cons]
    cases here : hit bound with
    | true =>
      refine ⟨Nat.le_refl _, ?_, .inr here⟩
      intro index low high
      exact absurd high (Nat.not_lt.mpr low)
    | false =>
      obtain ⟨ordered, missed, before⟩ := ih
      refine ⟨Nat.le_succ_of_le ordered, ?_, before⟩
      intro index low high
      rcases Nat.lt_succ_iff_lt_or_eq.mp high with below | rfl
      · exact missed index low below
      · exact here

variable {list : TrackList} {field : Field}

/-- A negated exact pattern finds the tracks with other values, an empty one none. -/
theorem hits_other (coherent : list.Coherent) (text : String) (options : MatchOptions)
    (negate : options.negate = true) (exact : options.exact = true)
    (plain : options.regex = false) {index : Nat} (inside : index < list.size) :
    list.hits (Matcher.compile text options) field.mask index = true ↔
      text ≠ "" ∧ list.foldedAt field index ≠ some (foldText text) := by
  obtain ⟨track, found⟩ := coherent.exists_get? inside
  simp [hits, foldedAt, found, Matcher.accepts_exact track field text options exact plain, negate]

/-- So the value of the cursor's track finds those with other values, if it is not empty. -/
theorem hits_differing (coherent : list.Coherent) (options : MatchOptions) {cursor : Nat}
    {track : Track} (found : list.get? cursor = some track) (negate : options.negate = true)
    (exact : options.exact = true) (plain : options.regex = false) {index : Nat}
    (inside : index < list.size) :
    list.hits (Matcher.compile (track.text field) options) field.mask index = true ↔
      track.text field ≠ "" ∧ list.foldedAt field index ≠ list.foldedAt field cursor := by
  have value : list.foldedAt field cursor = some (foldText (track.text field)) := by
    simp [foldedAt, found]
  rw [hits_other coherent _ options negate exact plain inside, value]

/-- A search back to the front. -/
theorem findWith_below {stop : Nat} (positive : 0 < stop) (inside : stop < list.size)
    (matcher : Matcher) (mask : FieldMask) :
    list.findWith matcher mask 0 (stop - 1) true =
      (List.range stop).reverse.find? (list.hits matcher mask) := by
  have below : stop - 1 < list.size := by omega
  rw [findWith_eq_find? (Nat.zero_lt_of_lt inside)]
  simp only [Nat.zero_min, Nat.min_eq_left (Nat.le_sub_one_of_lt below), if_true]
  rw [arc_zero below, Nat.sub_add_cancel positive]

/-- Going around misses only if nothing hits. -/
theorem find?_lap_eq_none {n cursor : Nat} {backwards : Bool} {hit : Nat → Bool} :
    (lap n cursor backwards).find? hit = none ↔ ∀ index < n, hit index = false := by
  simp only [List.find?_eq_none, mem_lap, Bool.not_eq_true]

/-- Looking through the places that a number of steps lead to ends at the first one that hits. -/
theorem find?_steps_eq_some {n stop : Nat} {place : Nat → Nat} {hit : Nat → Bool}
    (ends : ((List.range n).map fun step => place (step + 1)).find? hit = some stop) :
    hit stop = true ∧ ∃ steps, 0 < steps ∧ steps ≤ n ∧ stop = place steps ∧
      ∀ fewer, 0 < fewer → fewer < steps → hit (place fewer) = false := by
  rw [List.find?_map] at ends
  obtain ⟨step, chosen, rfl⟩ := Option.map_eq_some_iff.mp ends
  obtain ⟨here, few, passed⟩ := List.find?_range_eq_some.mp chosen
  refine ⟨here, step + 1, Nat.succ_pos step, List.mem_range.mp few, rfl, ?_⟩
  intro fewer positive less
  obtain ⟨fewer, rfl⟩ := Nat.exists_eq_succ_of_ne_zero (Nat.ne_of_gt positive)
  simpa using passed fewer (Nat.lt_of_succ_lt_succ less)

/-- Going on from the cursor ends at the first index that hits. -/
theorem find?_lap_on_eq_some {n cursor stop : Nat} {hit : Nat → Bool}
    (ends : (lap n cursor false).find? hit = some stop) :
    hit stop = true ∧ ∃ steps, 0 < steps ∧ steps ≤ n ∧ stop = (cursor + steps) % n ∧
      ∀ fewer, 0 < fewer → fewer < steps → hit ((cursor + fewer) % n) = false := by
  have steps : lap n cursor false = (List.range n).map fun step => (cursor + (step + 1)) % n := by
    simp only [lap, Nat.add_assoc, Nat.add_comm 1]
  exact @find?_steps_eq_some n stop (fun steps => (cursor + steps) % n) hit (steps ▸ ends)

/-- Going back from the cursor ends at the first index that hits. -/
theorem find?_lap_back_eq_some {n cursor stop : Nat} {hit : Nat → Bool}
    (ends : (lap n cursor true).find? hit = some stop) :
    hit stop = true ∧ ∃ steps, 0 < steps ∧ steps ≤ n ∧ stop = (cursor + n - steps) % n ∧
      ∀ fewer, 0 < fewer → fewer < steps → hit ((cursor + n - fewer) % n) = false :=
  @find?_steps_eq_some n stop (fun steps => (cursor + n - steps) % n) hit ends

/-- The second search leads to the start of the run that `stop` ends, unless the value of that run
is empty: then it leads to the front. -/
theorem exists_runStart (coherent : list.Coherent) (field : Field) (options : MatchOptions)
    {stop : Nat} (inside : stop < list.size) {last : Track} (found : list.get? stop = some last)
    (negate : options.negate = true) (exact : options.exact = true)
    (plain : options.regex = false) :
    ∃ start, list.RunStart field start stop ∧
      (if stop = 0 then some 0
        else (list.get? stop).map fun last =>
          (list.findWith (Matcher.compile (last.text field) options) field.mask 0 (stop - 1)
            true).elim 0 (· + 1)) =
        some (if last.text field = "" then 0 else start) := by
  have value : list.foldedAt field stop = some (foldText (last.text field)) := by
    simp [foldedAt, found]
  obtain ⟨ordered, missed, before⟩ := find?_reverse_range_elim
    (fun index => list.foldedAt field index != list.foldedAt field stop) stop
  refine ⟨_, ⟨ordered, ?_, ?_⟩, ?_⟩
  · intro index low high
    rcases Nat.lt_or_eq_of_le high with below | rfl
    · simpa using missed index low below
    · rfl
  · simpa using before
  · rcases Nat.eq_zero_or_pos stop with rfl | positive
    · simp
    rw [if_neg (Nat.ne_of_gt positive), found, Option.map_some, findWith_below positive inside]
    have hit : ∀ index ∈ (List.range stop).reverse,
        list.hits (Matcher.compile (last.text field) options) field.mask index = true ↔
          last.text field ≠ "" ∧ list.foldedAt field index ≠ list.foldedAt field stop := by
      intro index member
      have below := List.mem_range.mp (List.mem_reverse.mp member)
      rw [hits_other coherent _ options negate exact plain (Nat.lt_trans below inside), value]
    split
    · rename_i blank
      have none : (List.range stop).reverse.find?
          (list.hits (Matcher.compile (last.text field) options) field.mask) = none := by
        rw [List.find?_eq_none]
        intro index member
        rw [hit index member]
        exact fun differs => differs.1 blank
      rw [none, Option.elim_none]
    · rename_i valued
      rw [← List.head?_filter, ← List.head?_filter]
      congr 3
      apply List.filter_congr
      intro index member
      rw [Bool.eq_iff_iff, hit index member]
      simp [valued]

/-- The first search ends at the first index back from the cursor with another value, if there is
one. -/
theorem find_before (coherent : list.Coherent) (options : MatchOptions) {cursor : Nat}
    (inside : cursor < list.size) {track : Track} (found : list.get? cursor = some track)
    (valued : track.text field ≠ "") (negate : options.negate = true) (exact : options.exact = true)
    (plain : options.regex = false) :
    let found := list.findWith (Matcher.compile (track.text field) options) field.mask cursor
      ((cursor + list.size - 1) % list.size) true
    (found = none ↔
      ∀ index < list.size, list.foldedAt field index = list.foldedAt field cursor) ∧
    ∀ stop, found = some stop → stop < list.size ∧ list.PreviousOther field cursor stop := by
  have nonempty := Nat.zero_lt_of_lt inside
  have hit : ∀ index < list.size,
      list.hits (Matcher.compile (track.text field) options) field.mask index = true ↔
        list.foldedAt field index ≠ list.foldedAt field cursor := by
    intro index within
    rw [hits_differing coherent options found negate exact plain within]
    simp [valued]
  have miss : ∀ index < list.size,
      list.hits (Matcher.compile (track.text field) options) field.mask index = false ↔
        list.foldedAt field index = list.foldedAt field cursor := by
    intro index within
    rw [← Bool.not_eq_true, hit index within, not_not]
  dsimp only
  rw [findWith_previous inside, if_pos rfl, find?_lap_eq_none]
  refine ⟨forall₂_congr miss, ?_⟩
  intro stop first
  obtain ⟨here, steps, positive, few, rfl, passed⟩ := find?_lap_back_eq_some first
  have within := Nat.mod_lt (cursor + list.size - steps) nonempty
  refine ⟨within, steps, positive, few, rfl, (hit _ within).mp here, ?_⟩
  intro fewer some_steps less
  exact (miss _ (Nat.mod_lt _ nonempty)).mp (passed fewer some_steps less)

/-! ### The previous group -/

/-- Moving back by a group, as two searches. -/
theorem previousGroup?_eq {cursor : Nat} {track : Track}
    (onCursor : list.cursorIndex? = some cursor) (found : list.get? cursor = some track)
    (field : Field) : list.previousGroup? field =
      let options : MatchOptions := { negate := true, exact := true, reverse := true }
      (list.findWith (Matcher.compile (track.text field) options) field.mask cursor
        ((cursor + list.size - 1) % list.size) true).bind fun stop =>
          if stop = 0 then some 0
          else (list.get? stop).map fun last =>
            (list.findWith (Matcher.compile (last.text field) options) field.mask 0 (stop - 1)
              true).elim 0 (· + 1) := by
  simp only [previousGroup?, onCursor, found, find, Option.bind_eq_bind, Option.bind_some]
  congr 1
  funext stop
  split
  · rfl
  · cases list.get? stop with
    | none => rfl
    | some last =>
      simp only [Option.bind_some, Option.map_some]
      split <;> rename_i searched <;> rw [searched] <;> rfl

/-- After every run that leaves tracks, the cursor is on one, and if the value there is not empty,
moving back by a group finds nothing exactly when all values are the same.  Otherwise the first
other value back from the cursor ends a run of equal values, and the result is the index at which
this run starts, unless the value of the run is empty: then it is the front of the list. -/
theorem previousGroup?_run (operations : List Operation) (field : Field)
    (nonempty : 0 < (run operations).size) :
    let list := run operations
    ∃ cursor track, list.cursorIndex? = some cursor ∧ list.get? cursor = some track ∧
      (track.text field ≠ "" →
        (list.previousGroup? field = none ↔
          ∀ index < list.size, list.foldedAt field index = list.foldedAt field cursor) ∧
        ((∃ index < list.size, list.foldedAt field index ≠ list.foldedAt field cursor) →
          ∃ stop start last, list.PreviousOther field cursor stop ∧ list.get? stop = some last ∧
            list.RunStart field start stop ∧
            list.previousGroup? field = some (if last.text field = "" then 0 else start) ∧
            (list.previousGroup? field = some start ↔ last.text field ≠ "" ∨ start = 0))) := by
  intro list
  have coherent : list.Coherent := Coherent.run operations
  obtain ⟨cursor, track, onCursor, inside, found⟩ := coherent.exists_onCursor nonempty
  refine ⟨cursor, track, onCursor, found, ?_⟩
  intro valued
  obtain ⟨missed, reached⟩ := find_before coherent
    { negate := true, exact := true, reverse := true } inside found valued rfl rfl rfl
  rw [previousGroup?_eq onCursor found]
  dsimp only at missed reached ⊢
  cases first : list.findWith (Matcher.compile (track.text field) _) field.mask _ _ true with
  | none =>
    have same := missed.mp first
    refine ⟨⟨fun _ => same, fun _ => rfl⟩, ?_⟩
    rintro ⟨index, below, differs⟩
    exact absurd (same index below) differs
  | some stop =>
    obtain ⟨within, other⟩ := reached stop first
    obtain ⟨last, there⟩ := coherent.exists_get? within
    obtain ⟨start, run, landing⟩ := exists_runStart coherent field
      { negate := true, exact := true, reverse := true } within there rfl rfl rfl
    rw [Option.bind_some, landing]
    constructor
    · constructor
      · intro absent
        cases absent
      · intro same
        exact absurd (first.symm.trans (missed.mpr same)) (Option.some_ne_none stop)
    · intro _
      refine ⟨stop, start, last, other, there, run, rfl, ?_⟩
      rw [Option.some_inj]
      by_cases blank : last.text field = ""
      · rw [if_pos blank]
        simp [blank, eq_comm]
      · simp [blank]

/-- Three tracks with the cursor on the last one, of which the one in the middle has no artist. -/
def untaggedRun : List Operation :=
  [.append { file := "first.ogg", artist := "Ada" },
    .append { file := "second.ogg" },
    .append { file := "third.ogg", artist := "Bo" },
    .putCursor 2]

/-- The previous group of such a list. -/
theorem previousGroup?_untaggedRun :
    0 < (run untaggedRun).size ∧
      ∃ track, (run untaggedRun).get? 2 = some track ∧ track.text .artist ≠ "" ∧
        ∃ stop start last, (run untaggedRun).PreviousOther .artist 2 stop ∧
          (run untaggedRun).get? stop = some last ∧
            (run untaggedRun).RunStart .artist start stop ∧
              (run untaggedRun).previousGroup? .artist =
                some (if last.text .artist = "" then 0 else start) := by
  have nonempty : 0 < (run untaggedRun).size := by decide
  have stands : (run untaggedRun).cursorIndex? = some 2 := by decide
  have bo : (run untaggedRun).get? 2 = some { file := "third.ogg", artist := "Bo" } := by decide
  have differs : (run untaggedRun).foldedAt .artist 1 ≠ (run untaggedRun).foldedAt .artist 2 := by
    decide +kernel
  obtain ⟨cursor, track, onCursor, found, groups⟩ :=
    previousGroup?_run untaggedRun .artist nonempty
  obtain rfl : 2 = cursor := Option.some_inj.mp (stands.symm.trans onCursor)
  obtain rfl : { file := "third.ogg", artist := "Bo" } = track :=
    Option.some_inj.mp (bo.symm.trans found)
  have valued : ({ file := "third.ogg", artist := "Bo" } : Track).text .artist ≠ "" := by decide
  obtain ⟨stop, start, last, other, there, begins, landing, _⟩ :=
    (groups valued).2 ⟨1, by decide, differs⟩
  exact ⟨nonempty, _, found, valued, stop, start, last, other, there, begins, landing⟩

/-- There, the run before the cursor starts on the track without an artist, and moving back goes on
to the front of the list. -/
theorem previousGroup?_misses_untagged :
    (run untaggedRun).cursorIndex? = some 2 ∧
      (run untaggedRun).PreviousOther .artist 2 1 ∧ (run untaggedRun).RunStart .artist 1 1 ∧
        (run untaggedRun).previousGroup? .artist = some 0 := by
  have stands : (run untaggedRun).cursorIndex? = some 2 := by decide
  have other : (run untaggedRun).foldedAt .artist 1 ≠ (run untaggedRun).foldedAt .artist 2 := by
    decide +kernel
  have before : (run untaggedRun).foldedAt .artist 0 ≠ (run untaggedRun).foldedAt .artist 1 := by
    decide +kernel
  have landing : (run untaggedRun).previousGroup? .artist = some 0 := by decide +kernel
  refine ⟨stands, ⟨1, Nat.one_pos, by decide, by decide, other, ?_⟩,
    ⟨Nat.le_refl 1, ?_, .inr before⟩, landing⟩
  · intro fewer positive less
    omega
  · intro index low high
    rw [Nat.le_antisymm high low]

/-! ### The next group -/

/-- Moving on by a group, as a search. -/
theorem nextGroup?_eq {cursor : Nat} {track : Track} (onCursor : list.cursorIndex? = some cursor)
    (found : list.get? cursor = some track) (field : Field) :
    list.nextGroup? field =
      list.findWith (Matcher.compile (track.text field) { negate := true, exact := true })
        field.mask ((cursor + 1) % list.size) cursor false := by
  simp only [nextGroup?, onCursor, found, find, Option.bind_eq_bind, Option.bind_some]

/-- After every run that leaves tracks, the cursor is on one, and moving on by a group finds nothing
exactly when the value there is empty or all values are the same.  Otherwise it leads to the first
other value on from the cursor, around the end of the list where needed, and a run of equal values
begins there. -/
theorem nextGroup?_run (operations : List Operation) (field : Field)
    (nonempty : 0 < (run operations).size) :
    let list := run operations
    ∃ cursor track, list.cursorIndex? = some cursor ∧ list.get? cursor = some track ∧
      (list.nextGroup? field = none ↔ track.text field = "" ∨
        ∀ index < list.size, list.foldedAt field index = list.foldedAt field cursor) ∧
      ∀ stop, list.nextGroup? field = some stop ↔
        track.text field ≠ "" ∧ list.NextOther field cursor stop ∧
          (stop = 0 ∨ list.foldedAt field (stop - 1) ≠ list.foldedAt field stop) := by
  intro list
  have coherent : list.Coherent := Coherent.run operations
  obtain ⟨cursor, track, onCursor, inside, found⟩ := coherent.exists_onCursor nonempty
  refine ⟨cursor, track, onCursor, found, ?_⟩
  have hit : ∀ index < list.size, list.hits (Matcher.compile (track.text field)
      { negate := true, exact := true }) field.mask index = true ↔ track.text field ≠ "" ∧
        list.foldedAt field index ≠ list.foldedAt field cursor :=
    fun index within => hits_differing coherent _ found rfl rfl rfl within
  have miss : ∀ index < list.size, list.hits (Matcher.compile (track.text field)
      { negate := true, exact := true }) field.mask index = false ↔ (track.text field ≠ "" →
        list.foldedAt field index = list.foldedAt field cursor) := by
    intro index within
    rw [← Bool.not_eq_true, hit index within, not_and, not_not]
  have search := nextGroup?_eq onCursor found field
  rw [findWith_next inside, if_neg Bool.false_ne_true] at search
  have absent : list.nextGroup? field = none ↔ track.text field = "" ∨
      ∀ index < list.size, list.foldedAt field index = list.foldedAt field cursor := by
    rw [search, find?_lap_eq_none, forall₂_congr miss, Decidable.or_iff_not_imp_left]
    exact ⟨fun passed valued index within => passed index within valued,
      fun same index within valued => same valued index within⟩
  have reached : ∀ stop, list.nextGroup? field = some stop →
      track.text field ≠ "" ∧ list.NextOther field cursor stop := by
    intro stop first
    obtain ⟨here, steps, positive, few, rfl, passed⟩ := find?_lap_on_eq_some (search ▸ first)
    obtain ⟨valued, differs⟩ := (hit _ (Nat.mod_lt _ nonempty)).mp here
    refine ⟨valued, steps, positive, few, rfl, differs, ?_⟩
    intro fewer some_steps less
    exact (miss _ (Nat.mod_lt _ nonempty)).mp (passed fewer some_steps less) valued
  refine ⟨absent, ?_⟩
  intro stop
  constructor
  · intro first
    obtain ⟨valued, next⟩ := reached stop first
    exact ⟨valued, next, next.begins inside⟩
  · rintro ⟨valued, next, _⟩
    cases first : list.nextGroup? field with
    | none =>
      obtain ⟨steps, _, _, rfl, differs, _⟩ := next
      rcases absent.mp first with blank | same
      · exact absurd blank valued
      · exact absurd (same _ (Nat.mod_lt _ nonempty)) differs
    | some other => rw [(reached other first).2.unique next]

/-- Three tracks with the cursor on the last one, of which the first has the same artist. -/
def ringedRun : List Operation :=
  [.append { file := "first.ogg", artist := "ADA" },
    .append { file := "second.ogg", artist := "Bo" },
    .append { file := "third.ogg", artist := "Ada" },
    .putCursor 2]

/-- Moving on leads around the end and past the first track. -/
theorem nextGroup?_ringedRun :
    0 < (run ringedRun).size ∧ (run ringedRun).cursorIndex? = some 2 ∧
      (run ringedRun).foldedAt .artist 0 = (run ringedRun).foldedAt .artist 2 ∧
        (run ringedRun).nextGroup? .artist = some 1 := by
  have nonempty : 0 < (run ringedRun).size := by decide
  have stands : (run ringedRun).cursorIndex? = some 2 := by decide
  have ada : (run ringedRun).get? 2 = some { file := "third.ogg", artist := "Ada" } := by decide
  have same : (run ringedRun).foldedAt .artist 0 = (run ringedRun).foldedAt .artist 2 := by
    decide +kernel
  have differs : (run ringedRun).foldedAt .artist 1 ≠ (run ringedRun).foldedAt .artist 2 := by
    decide +kernel
  have begins : (run ringedRun).foldedAt .artist 0 ≠ (run ringedRun).foldedAt .artist 1 := by
    decide +kernel
  obtain ⟨cursor, track, onCursor, found, _, lands⟩ := nextGroup?_run ringedRun .artist nonempty
  obtain rfl : 2 = cursor := Option.some_inj.mp (stands.symm.trans onCursor)
  obtain rfl : { file := "third.ogg", artist := "Ada" } = track :=
    Option.some_inj.mp (ada.symm.trans found)
  have valued : ({ file := "third.ogg", artist := "Ada" } : Track).text .artist ≠ "" := by decide
  have next : (run ringedRun).NextOther .artist 2 1 := by
    refine ⟨2, by decide, by decide, by decide, differs, ?_⟩
    intro fewer positive less
    obtain rfl : fewer = 1 := by omega
    exact same
  exact ⟨nonempty, stands, same, (lands 1).mpr ⟨valued, next, .inr begins⟩⟩

end TrackList

end TrackBrowser
