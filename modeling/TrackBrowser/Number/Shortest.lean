/-
Module: TrackBrowser.Number.Shortest
Purpose: The text of a number of double precision: the fewest digits that read back as it.
-/
import TrackBrowser.Number.Double
import TrackBrowser.Text.Digits

/-!
The decimals that read back as a number form an interval around it.  For one digit, two digits and
so on, the two neighbours of the number among the decimals with that many digits are tried; the
first that lies in the interval is taken, and of two the nearer.  The digits are written without an
exponent, however many zeros that takes.
-/

namespace TrackBrowser.Double

/-- A decimal, `digits * 10 ^ scale`. -/
structure Decimal where
  digits : Nat
  scale : Int
  deriving DecidableEq, Repr, Inhabited

/-- Compares `left * 10 ^ scale` with `right * 2 ^ exponent`. -/
def compareScaled (left : Nat) (scale : Int) (right : Nat) (exponent : Int) : Ordering :=
  compare (left * Nat.pow 10 scale.toNat * Nat.pow 2 (-exponent).toNat)
    (right * Nat.pow 2 exponent.toNat * Nat.pow 10 (-scale).toNat)

/-- Whether a decimal is nearer to `mantissa * 2 ^ exponent` than to the numbers beside it.  A
decimal half way between two numbers belongs to the one with the even mantissa.  Below a power of
two the numbers lie twice as close. -/
def readsBack (mantissa : Nat) (exponent : Int) (decimal : Decimal) : Bool :=
  let narrow := mantissa == Nat.pow 2 (precision - 1) && leastExponent < exponent
  let low := if narrow then 4 * mantissa - 1 else 4 * mantissa - 2
  let high := 4 * mantissa + 2
  let even := mantissa % 2 == 0
  let fromLow := compareScaled decimal.digits decimal.scale low (exponent - 2)
  let fromHigh := compareScaled decimal.digits decimal.scale high (exponent - 2)
  (fromLow == .gt || (even && fromLow == .eq)) && (fromHigh == .lt || (even && fromHigh == .eq))

/-- The least power of ten above a positive number, among those near an estimate from below. -/
def magnitude (mantissa : Nat) (exponent : Int) : Int :=
  let estimate := ((mantissa.log2 : Int) + exponent) * 1233 / 4096
  let candidates := [estimate - 1, estimate, estimate + 1, estimate + 2]
  (candidates.find? fun power => compareScaled 1 power mantissa exponent == .gt).getD
    (estimate + 3)

/-- A decimal with `count` digits that reads back as a number, if one of its two neighbours among
such decimals does. -/
def decimalWith? (mantissa : Nat) (exponent : Int) (count : Nat) : Option Decimal :=
  let scale := magnitude mantissa exponent - count
  let numerator := mantissa * Nat.pow 2 exponent.toNat * Nat.pow 10 (-scale).toNat
  let denominator := Nat.pow 2 (-exponent).toNat * Nat.pow 10 scale.toNat
  let below : Decimal := ⟨numerator / denominator, scale⟩
  let above : Decimal := ⟨numerator / denominator + 1, scale⟩
  let nearer :=
    match compare (2 * (numerator % denominator)) denominator with
    | .lt => below
    | .gt => above
    | .eq => if below.digits % 2 == 0 then below else above
  match readsBack mantissa exponent below, readsBack mantissa exponent above with
  | true, true => some nearer
  | true, false => some below
  | false, true => some above
  | false, false => none

/-- The exact decimal of a number. -/
def exactDecimal (mantissa : Nat) (exponent : Int) : Decimal :=
  if 0 ≤ exponent then ⟨mantissa * Nat.pow 2 exponent.toNat, 0⟩
  else ⟨mantissa * Nat.pow 5 (-exponent).toNat, exponent⟩

/-- The shortest decimal that reads back as a positive number.  Seventeen digits always do. -/
def shortest (mantissa : Nat) (exponent : Int) : Decimal :=
  (((List.range 17).map (· + 1)).findSome? (decimalWith? mantissa exponent)).getD
    (exactDecimal mantissa exponent)

/-- A decimal without an exponent.  A fraction has no zeros at its end. -/
def Decimal.text (decimal : Decimal) : String :=
  if 0 ≤ decimal.scale then Text.decimal (decimal.digits * Nat.pow 10 decimal.scale.toNat)
  else
    let places := (-decimal.scale).toNat
    let whole := decimal.digits / Nat.pow 10 places
    let fraction := Text.paddedDigits places (decimal.digits % Nat.pow 10 places)
    let kept := (fraction.reverse.dropWhile (· == '0')).reverse
    Text.decimal whole ++ (if kept.isEmpty then "" else "." ++ String.ofList kept)

/-- The text of a number. -/
def text : Double → String
  | finite negative mantissa exponent =>
    let digits := if mantissa = 0 then "0" else (shortest mantissa exponent).text
    if negative then "-" ++ digits else digits
  | infinite negative => if negative then "-inf" else "inf"
  | undefined => "NaN"

end TrackBrowser.Double
