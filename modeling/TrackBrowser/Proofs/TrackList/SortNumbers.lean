/-
Module: TrackBrowser.Proofs.TrackList.SortNumbers
Purpose: Which numbers are read from the texts that tracks are sorted by.
-/
import Mathlib.Data.List.TakeWhile
import TrackBrowser.Proofs.PlainNumerals
import TrackBrowser.Proofs.TrackList.SortOrder

/-!
Digits are read one by one into a number that stops at the largest one of 64 bits.  Once it has
stopped there it stays there, so the number is the value of all digits, cut off once at the end.

A track or disc is sorted by the run of digits behind the blanks in front of it, and a date by all
of its runs.  `LeadingRun` and `DigitRuns` say which runs these are by the parts that a text is made
of, without naming a way to find them.
-/

namespace TrackBrowser

open Text (isBlank isDigit valueOf)

/-! ### Numbers that stop at the largest one -/

/-- Cutting off on the way comes to the same as cutting off at the end. -/
theorem cappedNumber_eq (digits : List Char) :
    cappedNumber digits = min maxNumber (valueOf digits) := by
  induction digits using List.reverseRecOn with
  | nil => rfl
  | append_singleton before c ih =>
    have step : cappedNumber (before ++ [c]) =
        min maxNumber (min maxNumber (cappedNumber before * 10) + Text.digitValue c) := by
      rw [cappedNumber, List.foldl_append]
      rfl
    rw [step, ih, Text.valueOf_concat]
    omega

/-! ### As many as there are -/

section Stops

variable {α : Type} {holds : α → Bool} {run rest : List α}

/-- What is taken while something holds ends in front of the first element of which it does not. -/
theorem takeWhile_stops (all : ∀ element ∈ run, holds element = true)
    (stop : ∀ element ∈ rest.head?, holds element = false) :
    (run ++ rest).takeWhile holds = run := by
  have none : rest.takeWhile holds = [] := by
    cases rest with
    | nil => rfl
    | cons first rest => rw [List.takeWhile_cons, stop first rfl, if_neg Bool.false_ne_true]
  rw [List.takeWhile_append_of_pos all, none, List.append_nil]

/-- What is left then starts with that element. -/
theorem dropWhile_stops (all : ∀ element ∈ run, holds element = true)
    (stop : ∀ element ∈ rest.head?, holds element = false) :
    (run ++ rest).dropWhile holds = rest := by
  rw [List.dropWhile_append_of_pos all]
  cases rest with
  | nil => rfl
  | cons first rest => rw [List.dropWhile_cons, stop first rfl, if_neg Bool.false_ne_true]

/-- So it does for every list. -/
theorem head?_dropWhile_stops (elements : List α) :
    ∀ element ∈ (elements.dropWhile holds).head?, holds element = false := by
  intro element first
  have stops := List.head?_dropWhile_not holds elements
  rw [Option.mem_def.mp first] at stops
  exact stops

end Stops

/-! ### The number in front -/

/-- A text starts with blanks and then a run of digits, each with as many characters as there
are. -/
structure LeadingRun (text blanks run rest : List Char) : Prop where
  parts : text = blanks ++ (run ++ rest)
  blanks : ∀ c ∈ blanks, isBlank c = true
  behindBlanks : ∀ c ∈ (run ++ rest).head?, isBlank c = false
  digits : ∀ c ∈ run, isDigit c = true
  behindDigits : ∀ c ∈ rest.head?, isDigit c = false

namespace LeadingRun

variable {text blanks run rest : List Char}

/-- Every text has these parts, if empty ones. -/
theorem exists_parts (text : List Char) :
    ∃ blanks run rest, LeadingRun text blanks run rest := by
  refine ⟨text.takeWhile isBlank, (text.dropWhile isBlank).takeWhile isDigit,
    (text.dropWhile isBlank).dropWhile isDigit, ?_, ?_, ?_, ?_, head?_dropWhile_stops _⟩
  · rw [List.takeWhile_append_dropWhile, List.takeWhile_append_dropWhile]
  · exact fun c => List.mem_takeWhile_imp
  · rw [List.takeWhile_append_dropWhile]
    exact head?_dropWhile_stops text
  · exact fun c => List.mem_takeWhile_imp

/-- The number that a text starts with is the value of the run, cut off at the largest number. -/
theorem leadingNumber_eq (leading : LeadingRun text blanks run rest) :
    leadingNumber text = min maxNumber (valueOf run) := by
  rw [leadingNumber, Text.trimStart, leading.parts,
    dropWhile_stops leading.blanks leading.behindBlanks,
    takeWhile_stops leading.digits leading.behindDigits, cappedNumber_eq]

end LeadingRun

/-- No digit is a blank. -/
theorem isBlank_of_isDigit {c : Char} (digit : isDigit c = true) : isBlank c = false := by
  have filled : ∀ n ∈ List.range 10, (!isBlank (Text.digitChar n)) = true := by decide
  simpa using Text.of_isDigit (fun c => !isBlank c) filled digit

/-- The number that a text of digits starts with is the number that they denote, cut off at the
largest one. -/
theorem leadingNumber_of_digits {run : List Char} (digits : ∀ c ∈ run, isDigit c = true) :
    leadingNumber run = min maxNumber (valueOf run) := by
  have leading : LeadingRun run [] run [] := by
    refine ⟨(List.append_nil run).symm, nofun, ?_, digits, nofun⟩
    intro c first
    rw [List.append_nil] at first
    exact isBlank_of_isDigit (digits c (List.mem_of_mem_head? first))
  exact leading.leadingNumber_eq

/-! ### All runs of digits -/

/-- The runs of digits in a text, in order, each with as many digits as there are side by side. -/
inductive DigitRuns : (text : List Char) → (runs : List (List Char)) → Prop where
  | none {between : List Char} (between_plain : ∀ c ∈ between, isDigit c = false) :
      DigitRuns between []
  | run {between run rest : List Char} {runs : List (List Char)}
      (between_plain : ∀ c ∈ between, isDigit c = false) (some_digit : run ≠ [])
      (digits : ∀ c ∈ run, isDigit c = true) (behind : ∀ c ∈ rest.head?, isDigit c = false)
      (others : DigitRuns rest runs) :
      DigitRuns (between ++ (run ++ rest)) (run :: runs)

namespace DigitRuns

variable {text between run rest : List Char} {runs : List (List Char)}

/-- Another character that is no digit, in front of a text. -/
theorem cons {c : Char} (plain : isDigit c = false) (in_rest : DigitRuns rest runs) :
    DigitRuns (c :: rest) runs := by
  have longer : ∀ {between : List Char}, (∀ d ∈ between, isDigit d = false) →
      ∀ d ∈ c :: between, isDigit d = false := by
    intro between between_plain
    exact List.forall_mem_cons.mpr ⟨plain, between_plain⟩
  cases in_rest with
  | none between_plain => exact .none (longer between_plain)
  | run between_plain some_digit digits behind others =>
    rw [← List.cons_append]
    exact .run (longer between_plain) some_digit digits behind others

/-- A run at the front of a text. -/
theorem front (some_digit : run ≠ []) (digits : ∀ c ∈ run, isDigit c = true)
    (behind : ∀ c ∈ rest.head?, isDigit c = false) (others : DigitRuns rest runs) :
    DigitRuns (run ++ rest) (run :: runs) := by
  have nothing : ∀ c ∈ ([] : List Char), isDigit c = false := nofun
  exact .run nothing some_digit digits behind others

/-- Cutting a text gives its runs.  The digits read last are in front of the text. -/
theorem of_digitRuns {run : List Char} (digits : ∀ c ∈ run, isDigit c = true)
    (text : List Char) : DigitRuns (run.reverse ++ text) (digitRuns run text) := by
  have reversed {run : List Char} (digits : ∀ c ∈ run, isDigit c = true) :
      ∀ c ∈ run.reverse, isDigit c = true :=
    fun c member => digits c (List.mem_reverse.mp member)
  fun_induction digitRuns run text with
  | case1 => exact .none nofun
  | case2 run some_digit =>
    exact .front (by simpa using some_digit) (reversed digits) nofun (.none nofun)
  | case3 run c rest digit ih =>
    have next := ih (List.forall_mem_cons.mpr ⟨digit, digits⟩)
    rwa [List.reverse_cons, List.append_assoc, List.singleton_append] at next
  | case4 run c rest plain empty ih =>
    rw [List.isEmpty_iff.mp empty]
    exact (ih nofun).cons (Bool.eq_false_iff.mpr plain)
  | case5 run c rest plain some_digit ih =>
    have behind : ∀ d ∈ (c :: rest).head?, isDigit d = false := by
      rintro d ⟨⟩
      exact Bool.eq_false_iff.mpr plain
    exact .front (by simpa using some_digit) (reversed digits) behind
      ((ih nofun).cons (Bool.eq_false_iff.mpr plain))

/-- Reading digits puts them on the run being read. -/
theorem digitRuns_append (digits : ∀ c ∈ run, isDigit c = true) (before rest : List Char) :
    digitRuns before (run ++ rest) = digitRuns (run.reverse ++ before) rest := by
  induction run generalizing before with
  | nil => rfl
  | cons c run ih =>
    obtain ⟨digit, others⟩ := List.forall_mem_cons.mp digits
    rw [List.cons_append, digitRuns, if_pos digit, ih others, List.reverse_cons,
      List.append_assoc, List.singleton_append]

/-- What is no digit is skipped between runs. -/
theorem digitRuns_skip (between_plain : ∀ c ∈ between, isDigit c = false) (rest : List Char) :
    digitRuns [] (between ++ rest) = digitRuns [] rest := by
  induction between with
  | nil => rfl
  | cons c between ih =>
    obtain ⟨plain, others⟩ := List.forall_mem_cons.mp between_plain
    rw [List.cons_append, digitRuns, if_neg (Bool.eq_false_iff.mp plain), List.isEmpty_nil,
      if_pos rfl, ih others]

/-- A run ends in front of what is no digit. -/
theorem digitRuns_close {before : List Char} (some_digit : before ≠ [])
    (behind : ∀ c ∈ rest.head?, isDigit c = false) :
    digitRuns before rest = before.reverse :: digitRuns [] rest := by
  cases rest with
  | nil =>
    cases before with
    | nil => exact absurd rfl some_digit
    | cons c before => rfl
  | cons c rest =>
    have plain := Bool.eq_false_iff.mp (behind c rfl)
    have open_run : ¬ before.isEmpty = true := by simpa using some_digit
    rw [digitRuns, if_neg plain, if_neg open_run, digitRuns, if_neg plain, List.isEmpty_nil,
      if_pos rfl]

/-- A text has these runs and no others. -/
theorem iff_eq : DigitRuns text runs ↔ runs = digitRuns [] text := by
  constructor
  · intro found
    induction found with
    | none between_plain =>
      have skipped := digitRuns_skip between_plain []
      rw [List.append_nil] at skipped
      rw [skipped]
      rfl
    | @run between run rest runs between_plain some_digit digits behind others ih =>
      have open_run : run.reverse ++ [] ≠ [] := by simpa using some_digit
      rw [digitRuns_skip between_plain, digitRuns_append digits, digitRuns_close open_run behind,
        List.append_nil, List.reverse_reverse, ih]
  · rintro rfl
    exact @of_digitRuns [] nofun text

/-- The numbers in a date are the values of its runs, each cut off at the largest number. -/
theorem dateNumbers_eq (found : DigitRuns text runs) :
    dateNumbers text = runs.map fun run => min maxNumber (valueOf run) := by
  rw [dateNumbers, ← iff_eq.mp found]
  exact List.map_congr_left fun run _ => cappedNumber_eq run

end DigitRuns

/-! ### Comparing dates -/

/-- A beginning of a sequence does not come after it. -/
theorem compareNumbers_ne_gt_of_prefix {left right : List Nat} (front : left <+: right) :
    compareNumbers left right ≠ .gt := by
  obtain ⟨rest, rfl⟩ := front
  induction left with
  | nil => cases rest <;> exact nofun
  | cons number left ih =>
    have same : compare number number = .eq := Std.ReflCmp.compare_self
    rw [List.cons_append, compareNumbers, same]
    exact ih

/-- Numbers in texts, as sort keys.  A text starts with the number that the run of digits behind its
blanks denotes, cut off at the largest one of 64 bits; neither zeros in front of the run nor
anything behind it makes a difference.  A date counts as the numbers that its runs of digits denote,
each cut off in the same way.  So dates with the same runs compare as equal, whatever stands between
the runs, and a date does not come after one whose numbers begin with its own. -/
theorem sortNumbers (text : List Char) (left right : Track) (caseSensitive : Bool) :
    (∃ blanks run rest, LeadingRun text blanks run rest) ∧
    (∀ blanks run rest, LeadingRun text blanks run rest →
      leadingNumber text = min (2 ^ 64 - 1) (valueOf run)) ∧
    (∀ blanks zeros run rest, LeadingRun text blanks (List.replicate zeros '0' ++ run) rest →
      leadingNumber text = leadingNumber run) ∧
    (∃ runs, DigitRuns text runs) ∧
    (∀ runs, DigitRuns text runs →
      dateNumbers text = runs.map fun run => min (2 ^ 64 - 1) (valueOf run)) ∧
    (∀ runs, DigitRuns left.date.toList runs → DigitRuns right.date.toList runs →
      left.compareBy .date caseSensitive right = .eq) ∧
    (dateNumbers left.date.toList <+: dateNumbers right.date.toList →
      left.compareBy .date caseSensitive right ≠ .gt) := by
  have byNumbers : left.compareBy .date caseSensitive right =
      compareNumbers (dateNumbers left.date.toList) (dateNumbers right.date.toList) := rfl
  refine ⟨LeadingRun.exists_parts text, ?_, ?_, ⟨_, DigitRuns.iff_eq.mpr rfl⟩, ?_, ?_, ?_⟩
  · intro blanks run rest leading
    exact leading.leadingNumber_eq
  · intro blanks zeros run rest leading
    have digits : ∀ c ∈ run, isDigit c = true := fun c member =>
      leading.digits c (List.mem_append_right _ member)
    rw [leading.leadingNumber_eq, Text.valueOf_zeros, leadingNumber_of_digits digits]
  · intro runs found
    exact found.dateNumbers_eq
  · intro runs inLeft inRight
    rw [byNumbers, inLeft.dateNumbers_eq, inRight.dateNumbers_eq, compareNumbers_eq_compare]
    exact Std.ReflCmp.compare_self
  · rw [byNumbers]
    exact compareNumbers_ne_gt_of_prefix

/-- A track number behind a wide blank and with zeros in front, a number beyond the largest one, a
date with other separators, and a month before its days. -/
theorem sortNumbers_releases :
    LeadingRun "\u3000007/12".toList ['\u3000'] "007".toList "/12".toList ∧
    leadingNumber "\u3000007/12".toList = 7 ∧
    leadingNumber "\u3000007/12".toList = leadingNumber "7".toList ∧
    DigitRuns "v18446744073709551616.2".toList ["18446744073709551616".toList, "2".toList] ∧
    dateNumbers "v18446744073709551616.2".toList = [18446744073709551615, 2] ∧
    ({ date := "1999-05-01" } : Track).compareBy .date true { date := "(1999) 05/01" } = .eq ∧
    dateNumbers "1999-05".toList <+: dateNumbers "1999-05-01".toList ∧
    ({ date := "1999-05" } : Track).compareBy .date true { date := "1999-05-01" } ≠ .gt := by
  have leading : LeadingRun "\u3000007/12".toList ['\u3000'] "007".toList "/12".toList := by
    have blanks : ∀ c ∈ ['\u3000'], isBlank c = true := List.all_eq_true.mp (by decide)
    have digits : ∀ c ∈ "007".toList, isDigit c = true := List.all_eq_true.mp (by decide)
    refine ⟨rfl, blanks, ?_, digits, ?_⟩ <;> rintro c ⟨⟩ <;> rfl
  have runs : DigitRuns "v18446744073709551616.2".toList
      ["18446744073709551616".toList, "2".toList] := DigitRuns.iff_eq.mpr (by decide)
  have date : DigitRuns "1999-05-01".toList ["1999".toList, "05".toList, "01".toList] :=
    DigitRuns.iff_eq.mpr (by decide)
  have spaced : DigitRuns "(1999) 05/01".toList ["1999".toList, "05".toList, "01".toList] :=
    DigitRuns.iff_eq.mpr (by decide)
  have front : dateNumbers "1999-05".toList <+: dateNumbers "1999-05-01".toList := by decide
  obtain ⟨_, value, zeros, _, _, same, _⟩ := sortNumbers "\u3000007/12".toList
    { date := "1999-05-01" } { date := "(1999) 05/01" } true
  obtain ⟨_, _, _, _, values, _, inOrder⟩ := sortNumbers "v18446744073709551616.2".toList
    { date := "1999-05" } { date := "1999-05-01" } true
  refine ⟨leading, ?_, zeros ['\u3000'] 2 "7".toList "/12".toList leading, runs, ?_,
    same _ date spaced, front, inOrder front⟩
  · rw [value _ _ _ leading]
    decide
  · rw [values _ runs]
    decide

end TrackBrowser
