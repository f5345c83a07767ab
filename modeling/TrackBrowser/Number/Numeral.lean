/-
Module: TrackBrowser.Number.Numeral
Purpose: Reads integers and numbers of double precision from text.
-/
import TrackBrowser.Number.Double
import TrackBrowser.Number.Limits
import TrackBrowser.Text.Blank
import TrackBrowser.Text.Digits

/-!
Numerals are read as a whole: no blanks, no underscores.  An integer is a run of digits after an
optional sign.  A number may have a point among or beside its digits and an exponent after them, or
be one of the words for the numbers that have no digits.
-/

namespace TrackBrowser.Numeral

/-- Splits off a sign; `true` stands for a minus. -/
def splitSign (text : List Char) : Bool × List Char :=
  match text with
  | '-' :: rest => (true, rest)
  | '+' :: rest => (false, rest)
  | _ => (false, text)

/-- The value of a run of at least one digit. -/
def natural? (text : List Char) : Option Nat :=
  if !text.isEmpty && text.all Text.isDigit then some (Text.valueOf text) else none

/-- A count of at most 64 bits; a plus may precede it. -/
def count? (text : List Char) : Option Nat := do
  let value ← natural? (match text with | '+' :: rest => rest | _ => text)
  if value < countLimit then some value else none

/-- An integer of at most 64 bits. -/
def integer? (text : List Char) : Option Int := do
  let (negative, digits) := splitSign text
  let magnitude ← natural? digits
  let value : Int := if negative then -magnitude else magnitude
  if smallestSigned ≤ value && value ≤ largestSigned then some value else none

/-- The power of ten that an exponent stands for; without one it is zero. -/
def exponent? (text : List Char) : Option Int :=
  match text with
  | [] => some 0
  | mark :: rest => do
    if mark.toLower != 'e' then none
    else
      let (negative, digits) := splitSign rest
      let magnitude ← natural? digits
      some (if negative then -magnitude else magnitude)

/-- A number written with digits, without its sign. -/
def unsigned? (negative : Bool) (text : List Char) : Option Double := do
  let whole := text.takeWhile Text.isDigit
  let afterWhole := text.dropWhile Text.isDigit
  let (fraction, rest) :=
    match afterWhole with
    | '.' :: rest => (rest.takeWhile Text.isDigit, rest.dropWhile Text.isDigit)
    | _ => ([], afterWhole)
  if whole.isEmpty && fraction.isEmpty then none
  else
    let power ← exponent? rest
    some (.ofDecimal negative (Text.valueOf (whole ++ fraction)) (power - fraction.length))

/-- A number of double precision. -/
def double? (text : List Char) : Option Double :=
  let (negative, rest) := splitSign text
  let word := rest.map Char.toLower
  if word == "inf".toList || word == "infinity".toList then some (.infinite negative)
  else if word == "nan".toList then some .undefined
  else unsigned? negative rest

end TrackBrowser.Numeral
