/-
Module: TrackBrowser.Proofs.TrackList.EqualTimes
Purpose: Searching by duration and moving by it tell tracks apart as their durations do.
-/
import Mathlib.Data.List.Find
import TrackBrowser.Proofs.Durations
import TrackBrowser.Proofs.PlainPatterns
import TrackBrowser.Proofs.TrackList.Groups
import TrackBrowser.Proofs.TrackList.Viewport

/-!
The value of the time field is the text that shows the duration.  Its characters are plain, and it
is read back as the duration, so that an exact match of that text is a match of the duration.  What
searches and moves between groups lead to can then be said of the durations at visible indices,
without any text.
-/

namespace TrackBrowser

open Pattern (PlainText isPlain plainLimit)

/-! ### Texts of durations -/

theorem isPlain_of_isDigit {c : Char} (digit : Text.isDigit c = true) : isPlain c = true := by
  have all : ∀ n ∈ List.range 10, isPlain (Text.digitChar n) = true := by decide
  exact Text.of_isDigit isPlain all digit

/-- The characters of a duration stand for themselves. -/
theorem plainText_clockText (time : Option Nat) : PlainText (clockText time).toList := by
  cases time with
  | none => exact List.all_eq_true.mp (by decide)
  | some seconds =>
    intro c member
    rw [toList_clockText, List.mem_append, List.mem_cons] at member
    rcases member with minutes | rfl | rest
    · exact isPlain_of_isDigit (Text.isDigit_of_mem_digits c minutes)
    · decide
    · exact isPlain_of_isDigit (Text.isDigit_of_mem_paddedDigits c rest)

/-- No duration is shown by an empty text. -/
theorem clockText_ne_empty (time : Option Nat) : clockText time ≠ "" := by
  cases time with
  | none => decide
  | some seconds =>
    intro empty
    have length := congrArg (fun text => text.toList.length) empty
    simp [toList_clockText] at length

/-- The text of a duration of 64 bits is short. -/
theorem length_clockText_le {time : Option Nat} (fits : ∀ seconds ∈ time, seconds < countLimit) :
    (clockText time).toList.length ≤ plainLimit := by
  cases time with
  | none => decide
  | some seconds =>
    have bound : seconds / 60 < countLimit :=
      Nat.lt_of_le_of_lt (Nat.div_le_self seconds 60) (fits seconds rfl)
    have wide : countLimit ≤ Nat.pow 10 20 := by decide
    have minutes : (Text.digits (seconds / 60)).length ≤ 20 :=
      Text.length_digits_le (by decide) (Nat.lt_of_lt_of_le bound wide)
    rw [toList_clockText, List.length_append, List.length_cons, length_paddedDigits_seconds]
    unfold plainLimit
    omega

/-- An exact pattern that is the text of a duration matches the tracks of that duration. -/
theorem Matcher.accepts_clockText (track : Track) {time : Option Nat} {options : MatchOptions}
    (exact : options.exact = true)
    (fits : options.regex = true → ∀ seconds ∈ time, seconds < countLimit) :
    (compile (clockText time) options).accepts track Field.time.mask =
      ((track.time == time) != options.negate) := by
  have values : ∀ field, Field.time.mask.contains field = true →
      PlainText (track.text field).toList := by
    intro field selected
    rw [Field.contains_mask.mp selected]
    exact plainText_clockText track.time
  have same : track.text .time = clockText time ↔ track.time = time :=
    clockText_injective.eq_iff
  rw [Bool.eq_iff_iff, accepts_plain track _ exact (clockText_ne_empty time)
    (plainText_clockText time) (fun regex => length_clockText_le (fits regex)) values]
  simp only [Field.contains_mask, exists_eq_left, same]
  cases options.negate <;> simp

namespace TrackList

variable {list : TrackList}

/-! ### Durations at visible indices -/

/-- The duration at a visible index, if there is a track. -/
def timeAt (list : TrackList) (index : Nat) : Option (Option Nat) :=
  (list.get? index).map Track.time

/-- Whether the tracks at two visible indices have the same duration, or both an unknown one. -/
def sameTime (list : TrackList) (index other : Nat) : Bool :=
  list.timeAt index == list.timeAt other

/-- Which tracks the text of a duration finds. -/
theorem hits_clockText (coherent : list.Coherent) {time : Option Nat} {options : MatchOptions}
    (exact : options.exact = true)
    (fits : options.regex = true → ∀ seconds ∈ time, seconds < countLimit) {index : Nat}
    (inside : index < list.size) :
    list.hits (Matcher.compile (clockText time) options) Field.time.mask index =
      ((list.timeAt index == some time) != options.negate) := by
  obtain ⟨track, found⟩ := coherent.exists_get? inside
  simp [hits, timeAt, found, Matcher.accepts_clockText track exact fits]

/-- The text of a duration as a negated exact pattern finds the tracks of other durations. -/
theorem find?_other_time (coherent : list.Coherent) {options : MatchOptions}
    (exact : options.exact = true) (plain : options.regex = false) (negate : options.negate = true)
    {other : Nat} {track : Track} (found : list.get? other = some track) {path : List Nat}
    (inside : ∀ index ∈ path, index < list.size) :
    path.find? (list.hits (Matcher.compile (track.text .time) options) Field.time.mask) =
      path.find? fun index => !list.sameTime index other := by
  have text : track.text .time = clockText track.time := rfl
  have value : list.timeAt other = some track.time := by
    rw [timeAt, found, Option.map_some]
  have fits : options.regex = true → ∀ seconds ∈ track.time, seconds < countLimit := by
    rw [plain]
    exact nofun
  apply List.find?_congr
  intro index member
  rw [text, hits_clockText coherent exact fits (inside index member), sameTime, value, negate,
    Bool.bne_true]

/-- An exact search for the text of a duration takes the first track of this duration on its way,
or with negation the first one of another duration. -/
theorem find_clockText (coherent : list.Coherent) (nonempty : 0 < list.size) {time : Option Nat}
    {options : MatchOptions} (exact : options.exact = true)
    (fits : options.regex = true → ∀ seconds ∈ time, seconds < countLimit) (first last : Nat) :
    list.find (clockText time) Field.time.mask first last options =
      let path := arc list.size (min first (list.size - 1)) (min last (list.size - 1))
      (if options.reverse then path.reverse else path).find? fun index =>
        (list.timeAt index == some time) != options.negate := by
  rw [find, findWith_eq_find? nonempty]
  apply List.find?_congr
  intro index member
  apply hits_clockText coherent exact fits
  apply lt_of_mem_arc nonempty
  split at member
  · exact List.mem_reverse.mp member
  · exact member

/-! ### Groups of equal durations -/

/-- Where moving on from an index leads when it passes what is the same as there. -/
def nextDifferent (size cursor : Nat) (same : Nat → Nat → Bool) : Option Nat :=
  (lap size cursor false).find? fun index => !same index cursor

/-- Where moving back from an index leads when it passes what is the same as there, and goes on to
the front of what is the same in a row. -/
def previousDifferent (size cursor : Nat) (same : Nat → Nat → Bool) : Option Nat :=
  ((lap size cursor true).find? fun index => !same index cursor).map fun stop =>
    ((List.range stop).reverse.find? fun index => !same index stop).elim 0 (· + 1)

variable {cursor : Nat}

/-- Moving on by duration passes the tracks of the cursor's duration. -/
theorem nextGroup?_time (coherent : list.Coherent) (inside : cursor < list.size)
    (onCursor : list.cursorIndex? = some cursor) :
    list.nextGroup? .time = nextDifferent list.size cursor list.sameTime := by
  obtain ⟨track, found⟩ := coherent.exists_get? inside
  rw [nextGroup?_eq onCursor found, findWith_next inside, if_neg Bool.false_ne_true]
  exact find?_other_time coherent rfl rfl rfl found fun _ => mem_lap.mp

/-- Moving back by duration passes the tracks of the cursor's duration, and then those of the
duration before it. -/
theorem previousGroup?_time (coherent : list.Coherent) (inside : cursor < list.size)
    (onCursor : list.cursorIndex? = some cursor) :
    list.previousGroup? .time = previousDifferent list.size cursor list.sameTime := by
  obtain ⟨track, found⟩ := coherent.exists_get? inside
  rw [previousGroup?_eq onCursor found]
  dsimp only
  rw [findWith_previous inside, if_pos rfl,
    find?_other_time coherent rfl rfl rfl found fun _ => mem_lap.mp, previousDifferent]
  cases first : (lap list.size cursor true).find? fun index => !list.sameTime index cursor with
  | none => rfl
  | some stop =>
    have within : stop < list.size := mem_lap.mp (List.mem_of_find?_eq_some first)
    obtain ⟨last, here⟩ := coherent.exists_get? within
    rw [Option.bind_some, Option.map_some, here, Option.map_some]
    rcases Nat.eq_zero_or_pos stop with rfl | positive
    · rfl
    · have below : ∀ index ∈ (List.range stop).reverse, index < list.size := by
        intro index member
        exact Nat.lt_trans (List.mem_range.mp (List.mem_reverse.mp member)) within
      rw [if_neg (Nat.ne_of_gt positive), findWith_below positive within,
        find?_other_time coherent rfl rfl rfl here below]

/-! ### Durations and their texts -/

/-- Durations are read back from their texts.  A clock text gives minutes and less than sixty
seconds, which make up the duration, and a total gives hours, minutes and seconds that make it up,
from the largest unit that is not zero.  So no two durations have the same text, and a search of the
time field for the whole text of a track's duration tells tracks apart as their durations do, also
as an expression, which 64 bits of seconds never make too large.  So does moving between groups of
equal durations, on every list that a run leads to. -/
theorem durations_readBack (operations : List Operation) :
    let list := run operations
    (∀ time, ∃ minutes seconds, readClock? (clockText (some time)) = some (minutes, seconds) ∧
      seconds < 60 ∧ minutes * 60 + seconds = time) ∧
    readClock? (clockText none) = none ∧ Function.Injective clockText ∧
    (∀ seconds, ∃ quantities, readQuantities? (totalText seconds) = some quantities ∧
      ShowsTotal quantities seconds) ∧
    Function.Injective totalText ∧
    (∀ (other : Track) (options : MatchOptions), options.exact = true →
      (options.regex = true → ∀ seconds ∈ other.time, seconds < countLimit) →
        (∀ track : Track, track.matchesPattern (other.text .time) Field.time.mask options =
          ((track.time == other.time) != options.negate)) ∧
        (0 < list.size → ∀ first last,
          list.find (other.text .time) Field.time.mask first last options =
            let path := arc list.size (min first (list.size - 1)) (min last (list.size - 1))
            (if options.reverse then path.reverse else path).find? fun index =>
              (list.timeAt index == some other.time) != options.negate)) ∧
    (∀ cursor, list.cursorIndex? = some cursor →
      list.nextGroup? .time = nextDifferent list.size cursor list.sameTime ∧
        list.previousGroup? .time = previousDifferent list.size cursor list.sameTime) := by
  intro list
  have coherent : list.Coherent := Coherent.run operations
  refine ⟨?_, readClock?_unknown, clockText_injective, readQuantities?_totalText,
    totalText_injective, ?_, ?_⟩
  · intro time
    exact ⟨time / 60, time % 60, readClock?_clockText time, Nat.mod_lt _ (by decide),
      Nat.div_add_mod' time 60⟩
  · intro other options exact fits
    refine ⟨fun track => Matcher.accepts_clockText track exact fits, ?_⟩
    intro nonempty first last
    exact find_clockText coherent nonempty exact fits first last
  · intro cursor onCursor
    have inside := cursorIndex?_lt onCursor
    exact ⟨nextGroup?_time coherent inside onCursor, previousGroup?_time coherent inside onCursor⟩

/-- A track of three minutes and five seconds. -/
def shortTrack : Track :=
  { file := "short.ogg", time := some 185 }

/-- Two tracks of the same duration around one of an unknown duration, and one of an hour behind
them.  The cursor is on the first track. -/
def timedRun : List Operation :=
  [.append shortTrack, .append { file := "unknown.ogg" },
    .append { file := "again.ogg", time := some 185 },
    .append { file := "long.ogg", time := some 3600 }, .putCursor 0]

/-- From behind the cursor a search for the duration of its track, as an expression, finds the
third track.  Moving on by duration leads to the unknown one, and moving back leads around the front
to the hour. -/
theorem durations_readBack_timedRun :
    let exact : MatchOptions := { exact := true, regex := true }
    exact.exact = true ∧ (∀ seconds ∈ shortTrack.time, seconds < countLimit) ∧
      0 < (run timedRun).size ∧ (run timedRun).cursorIndex? = some 0 ∧
      shortTrack.text .time = "3:05" ∧
      (run timedRun).find (shortTrack.text .time) Field.time.mask 1 0 exact = some 2 ∧
      (run timedRun).nextGroup? .time = some 1 ∧ (run timedRun).previousGroup? .time = some 3 := by
  intro exact
  have fits : ∀ seconds ∈ shortTrack.time, seconds < countLimit := by
    rintro seconds ⟨⟩
    decide
  have nonempty : 0 < (run timedRun).size := by decide
  have stands : (run timedRun).cursorIndex? = some 0 := by decide
  have text : shortTrack.text .time = "3:05" := by decide +kernel
  obtain ⟨-, -, -, -, -, searches, moves⟩ := durations_readBack timedRun
  obtain ⟨-, finds⟩ := searches shortTrack exact rfl fun _ => fits
  obtain ⟨next, previous⟩ := moves 0 stands
  have found := finds nonempty 1 0
  have path : arc (run timedRun).size (min 1 ((run timedRun).size - 1))
      (min 0 ((run timedRun).size - 1)) = [1, 2, 3, 0] := by decide
  rw [path] at found
  refine ⟨rfl, fits, nonempty, stands, text, found.trans ?_, next.trans ?_, previous.trans ?_⟩
  · decide
  · decide
  · decide

end TrackList

end TrackBrowser
