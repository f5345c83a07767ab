/-
Module: TrackBrowser.Toml.Scalar
Purpose: The values of TOML that are written without quotes or brackets.
-/
import TrackBrowser.Config.Value
import TrackBrowser.Number.Numeral
import TrackBrowser.Number.Limits
import TrackBrowser.Toml.Moment
import TrackBrowser.Toml.Quoted

/-!
A bare value is a truth value, an integer, a number, a date or a time.  Underscores may stand
between digits.  Decimal integers have no leading zeros; integers in another base have no sign.  A
number that is too great is an error, not infinite.
-/

namespace TrackBrowser.Toml

/-- The digits of a text in which single underscores may stand between digits. -/
def plainDigits? (isDigit : Char → Bool) (text : List Char) : Option (List Char) :=
  match text with
  | [] => none
  | [c] => if isDigit c then some [c] else none
  | c :: '_' :: rest => if isDigit c then (plainDigits? isDigit rest).map (c :: ·) else none
  | c :: rest => if isDigit c then (plainDigits? isDigit rest).map (c :: ·) else none

/-- The value of digits in a base. -/
def baseValue? (base : Nat) (text : List Char) : Option Nat := do
  let isBaseDigit := fun c : Char => (hexDigit? c).any (· < base)
  let digits ← plainDigits? isBaseDigit text
  let values ← digits.mapM hexDigit?
  return values.foldl (fun total digit => base * total + digit) 0

/-- An integer that fits 64 bits. -/
def bounded? (value : Int) : Option ConfigValue :=
  if smallestSigned ≤ value && value ≤ largestSigned then some (.integer value) else none

/-- Decimal digits without underscores and without leading zeros. -/
def wholeDigits? (text : List Char) : Option (List Char) := do
  let digits ← plainDigits? Text.isDigit text
  match text with
  | '0' :: _ :: _ => none
  | _ => some digits

/-- A decimal integer. -/
def decimalInteger? (text : List Char) : Option ConfigValue := do
  let (negative, rest) := Numeral.splitSign text
  let digits ← wholeDigits? rest
  let magnitude : Int := Text.valueOf digits
  bounded? (if negative then -magnitude else magnitude)

/-- The exponent part of a number, without underscores; it may be missing. -/
def exponentPart? (text : List Char) : Option (List Char) :=
  match text with
  | [] => some []
  | mark :: rest =>
    if mark.toLower != 'e' then none
    else
      match rest with
      | '+' :: digits => (plainDigits? Text.isDigit digits).map ('e' :: ·)
      | '-' :: digits => (plainDigits? Text.isDigit digits).map ('e' :: '-' :: ·)
      | digits => (plainDigits? Text.isDigit digits).map ('e' :: ·)

/-- A number with a fraction, an exponent or both, or one of the words for numbers without
digits. -/
def number? (text : List Char) : Option ConfigValue := do
  let (negative, rest) := Numeral.splitSign text
  if rest == "inf".toList then return .real (.infinite negative)
  else if rest == "nan".toList then return .real .undefined
  else
    let isDigitPart := fun c => Text.isDigit c || c == '_'
    let whole ← wholeDigits? (rest.takeWhile isDigitPart)
    let afterWhole := rest.dropWhile isDigitPart
    let (fraction, afterFraction) ←
      match afterWhole with
      | '.' :: after => do
        let digits ← plainDigits? Text.isDigit (after.takeWhile isDigitPart)
        pure ('.' :: digits, after.dropWhile isDigitPart)
      | _ => pure ([], afterWhole)
    let exponent ← exponentPart? afterFraction
    guard (!fraction.isEmpty || !exponent.isEmpty)
    match ← Numeral.double? (whole ++ fraction ++ exponent) with
    | .finite _ mantissa power => return .real (.finite negative mantissa power)
    | _ => none

/-- A bare value. -/
def scalar? (text : List Char) : Option ConfigValue :=
  match text with
  | ['t', 'r', 'u', 'e'] => some (.flag true)
  | ['f', 'a', 'l', 's', 'e'] => some (.flag false)
  | '0' :: 'x' :: digits => (baseValue? 16 digits).bind fun value => bounded? value
  | '0' :: 'o' :: digits => (baseValue? 8 digits).bind fun value => bounded? value
  | '0' :: 'b' :: digits => (baseValue? 2 digits).bind fun value => bounded? value
  | _ =>
    match decimalInteger? text, moment? text with
    | some value, _ => some value
    | none, some written => some (.text (String.ofList written))
    | none, none => number? text

/-- The characters that bare values consist of. -/
def isScalarChar (c : Char) : Bool :=
  c.isAlphanum || c == '_' || c == '-' || c == '+' || c == '.' || c == ':'

/-- Splits off the text of a bare value.  A blank belongs to it when it stands between a date and
a time. -/
def scalarText (text : List Char) : List Char × List Char :=
  let first := text.takeWhile isScalarChar
  let rest := text.dropWhile isScalarChar
  match date? first, rest with
  | some (_, []), ' ' :: c :: more =>
    if Text.isDigit c then
      (first ++ ' ' :: (c :: more).takeWhile isScalarChar, (c :: more).dropWhile isScalarChar)
    else (first, rest)
  | _, _ => (first, rest)

end TrackBrowser.Toml
