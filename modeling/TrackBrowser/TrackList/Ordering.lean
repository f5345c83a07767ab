/-
Module: TrackBrowser.TrackList.Ordering
Purpose: Sorting and shuffling a list.
-/
import TrackBrowser.Number.Limits
import TrackBrowser.Text.Digits
import TrackBrowser.TrackList.Basic

/-!
A list is sorted by several fields in one stable pass for each, so the last field weighs most.
Numbers that are read from texts stop at the largest one of 64 bits.
-/

namespace TrackBrowser

open Text (isDigit digitValue)

/-- The largest number that is read from a text. -/
def maxNumber : Nat :=
  countLimit - 1

/-- The number that a run of digits denotes, at most `maxNumber`. -/
def cappedNumber (digits : List Char) : Nat :=
  digits.foldl (fun total c => min maxNumber (min maxNumber (total * 10) + digitValue c)) 0

/-- The number that a text starts with, after blanks; zero if there is none. -/
def leadingNumber (text : List Char) : Nat :=
  cappedNumber ((Text.trimStart text).takeWhile isDigit)

/-- Cuts a text into its runs of digits.  `run` is the run being read, its last digit first. -/
def digitRuns : (run : List Char) → List Char → List (List Char)
  | [], [] => []
  | run, [] => [run.reverse]
  | run, c :: rest =>
    if isDigit c then digitRuns (c :: run) rest
    else if run.isEmpty then digitRuns [] rest
    else run.reverse :: digitRuns [] rest

/-- The numbers in a date, in order. -/
def dateNumbers (text : List Char) : List Nat :=
  (digitRuns [] text).map cappedNumber

/-- Compares two sequences of numbers, the first difference deciding; a beginning of a sequence
comes before it. -/
def compareNumbers : List Nat → List Nat → Ordering
  | [], [] => .eq
  | [], _ :: _ => .lt
  | _ :: _, [] => .gt
  | x :: xs, y :: ys => (compare x y).then (compareNumbers xs ys)

/-- Compares two texts by code points. -/
def compareTexts (left right : List Char) : Ordering :=
  compareNumbers (left.map Char.toNat) (right.map Char.toNat)

/-- Compares two durations; an unknown one comes first. -/
def compareTimes : Option Nat → Option Nat → Ordering
  | none, none => .eq
  | none, some _ => .lt
  | some _, none => .gt
  | some x, some y => compare x y

/-- Compares two tracks by a field: durations and other numbers by their values, dates by all their
numbers, texts by code points, in lower case unless case matters. -/
def Track.compareBy (field : Field) (caseSensitive : Bool) (left right : Track) : Ordering :=
  if field = .time then compareTimes left.time right.time
  else if field = .date then
    compareNumbers (dateNumbers left.date.toList) (dateNumbers right.date.toList)
  else
    let leftText := (left.text field).toList
    let rightText := (right.text field).toList
    if field.isNumeric then compare (leadingNumber leftText) (leadingNumber rightText)
    else if caseSensitive then compareTexts leftText rightText
    else compareTexts (Unicode.lowerText leftText) (Unicode.lowerText rightText)

namespace TrackList

/-- The order of tracks by a field, for sorting. -/
def inOrder (list : TrackList) (field : Field) (left right : Track) : Bool :=
  left.compareBy field list.caseSensitive right != .gt

/-- Sorts by each field in turn, keeping the order of equal tracks. -/
def sortByFields (list : TrackList) (fields : List Field) : TrackList :=
  if fields.isEmpty then list
  else
    let sorted := fields.foldl (fun tracks field => tracks.mergeSort (list.inOrder field))
      list.tracks
    { list with tracks := sorted }.rebuild list.visible.isEmpty

/-- Sorts by the fields with the given names; unknown names are skipped. -/
def sort (list : TrackList) (keys : List String) : TrackList :=
  list.sortByFields (keys.filterMap fun key => (Field.ofName key).toOption)

end TrackList

end TrackBrowser
