/-
Module: TrackBrowser.Toml.Moment
Purpose: The dates and times of TOML, as text in one form.
-/
import TrackBrowser.Text.Digits

/-!
A date, a time, or both with an offset or without.  Each is kept as the text that is written for it:
a capital `T` between date and time, a capital `Z`, and no zeros at the end of a fraction, of which
nine digits count.
-/

namespace TrackBrowser.Toml

/-- Splits off a number of exactly `width` digits. -/
def fixedNumber? (width : Nat) (text : List Char) : Option (Nat × List Char) :=
  let digits := text.take width
  if digits.length = width && digits.all Text.isDigit then
    some (Text.valueOf digits, text.drop width)
  else none

/-- Splits off a character. -/
def expect? (c : Char) : List Char → Option (List Char)
  | d :: rest => if c == d then some rest else none
  | [] => none

/-- The number of days of a month. -/
def daysIn (year month : Nat) : Nat :=
  let leap := year % 4 == 0 && (year % 100 != 0 || year % 400 == 0)
  if month == 2 then if leap then 29 else 28
  else if month == 4 || month == 6 || month == 9 || month == 11 then 30
  else 31

/-- Reads a date and gives its text. -/
def date? (text : List Char) : Option (List Char × List Char) := do
  let (year, rest) ← fixedNumber? 4 text
  let rest ← expect? '-' rest
  let (month, rest) ← fixedNumber? 2 rest
  let rest ← expect? '-' rest
  let (day, rest) ← fixedNumber? 2 rest
  if 1 ≤ month && month ≤ 12 && 1 ≤ day && day ≤ daysIn year month then
    some (text.take 10, rest)
  else none

/-- The text of a fraction of a second with these digits. -/
def fractionText (digits : List Char) : List Char :=
  let kept := ((digits.take 9).reverse.dropWhile (· == '0')).reverse
  '.' :: (if kept.isEmpty then ['0'] else kept)

/-- Reads the seconds of a time, with what comes before and after their point. -/
def seconds? (text : List Char) : Option (List Char × List Char) :=
  match text with
  | ':' :: rest => do
    let (second, after) ← fixedNumber? 2 rest
    if 60 < second then none
    else
      let written := ':' :: rest.take 2
      match after with
      | '.' :: fraction =>
        let digits := fraction.takeWhile Text.isDigit
        if digits.isEmpty then none
        else some (written ++ fractionText digits, fraction.dropWhile Text.isDigit)
      | _ => some (written, after)
  | _ => some ([], text)

/-- Reads hours and minutes and gives their text. -/
def hourMinute? (text : List Char) : Option (List Char × List Char) := do
  let (hour, rest) ← fixedNumber? 2 text
  let rest ← expect? ':' rest
  let (minute, rest) ← fixedNumber? 2 rest
  if hour ≤ 23 && minute ≤ 59 then some (text.take 5, rest) else none

/-- Reads a time of day, whose seconds may be left out, and gives its text. -/
def time? (text : List Char) : Option (List Char × List Char) := do
  let (written, rest) ← hourMinute? text
  let (seconds, rest) ← seconds? rest
  some (written ++ seconds, rest)

/-- Reads an offset up to the end of the text and gives its text. -/
def offset? (text : List Char) : Option (List Char) :=
  match text with
  | [] => some []
  | ['Z'] => some ['Z']
  | ['z'] => some ['Z']
  | '+' :: rest => wholeOffset '+' rest
  | '-' :: rest => wholeOffset '-' rest
  | _ => none
where
  /-- An offset of no minutes has a plus. -/
  wholeOffset (sign : Char) (text : List Char) : Option (List Char) := do
    let (written, rest) ← hourMinute? text
    if !rest.isEmpty then none
    else some ((if written == "00:00".toList then '+' else sign) :: written)

/-- Reads a date, a time, or both, up to the end of the text, and gives its text. -/
def moment? (text : List Char) : Option (List Char) :=
  match date? text with
  | some (date, []) => some date
  | some (date, separator :: rest) => do
    if separator != 'T' && separator != 't' && separator != ' ' then none
    else
      let (time, rest) ← time? rest
      return date ++ 'T' :: time ++ (← offset? rest)
  | none => do
    let (time, rest) ← time? text
    if rest.isEmpty then some time else none

end TrackBrowser.Toml
