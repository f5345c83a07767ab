/-
Module: TrackBrowser.Number.Double
Purpose: Binary floating point numbers of double precision, and the one nearest to a decimal.
-/
import TrackBrowser.Number.Limits

/-!
A finite number is `mantissa * 2 ^ exponent` with a mantissa of at most 53 bits and an exponent of
at least -1074.  Every result of `ofRatio` has as many of these bits as the exponent allows, so
equal numbers of one sign are equal values.
-/

namespace TrackBrowser

/-- A number of double precision.  Zero has a sign. -/
inductive Double where
  | finite (negative : Bool) (mantissa : Nat) (exponent : Int)
  | infinite (negative : Bool)
  | undefined
  deriving DecidableEq, Repr, Inhabited

namespace Double

/-- The number of bits of a full mantissa. -/
def precision : Nat := 53

/-- The least exponent. -/
def leastExponent : Int := -1074

/-- The greatest exponent. -/
def greatestExponent : Int := 971

/-- The natural number nearest to a quotient; a half goes to the even neighbour. -/
def roundHalfEven (numerator denominator : Nat) : Nat :=
  let quotient := numerator / denominator
  let twice := 2 * (numerator % denominator)
  if denominator < twice || (twice == denominator && quotient % 2 == 1) then quotient + 1
  else quotient

/-- The exponent at which a positive quotient has a full mantissa, or the least exponent. -/
def exponentOf (numerator denominator : Nat) : Int :=
  let estimate : Int := (numerator.log2 : Int) - denominator.log2 - precision
  let full := estimate + precision
  let reaches := denominator * Nat.pow 2 full.toNat ≤ numerator * Nat.pow 2 (-full).toNat
  max leastExponent (if reaches then estimate + 1 else estimate)

/-- The number nearest to a positive quotient; a half goes to the even neighbour, and what is
beyond the greatest number is infinite. -/
def ofRatio (negative : Bool) (numerator denominator : Nat) : Double :=
  let exponent := exponentOf numerator denominator
  let mantissa :=
    roundHalfEven (numerator * Nat.pow 2 (-exponent).toNat) (denominator * Nat.pow 2 exponent.toNat)
  let carried := mantissa == Nat.pow 2 precision
  let exponent := if carried then exponent + 1 else exponent
  let mantissa := if carried then Nat.pow 2 (precision - 1) else mantissa
  if greatestExponent < exponent then .infinite negative else .finite negative mantissa exponent

/-- The number nearest to `digits * 10 ^ scale`.  Scales far outside the range of numbers are
decided without computing the power. -/
def ofDecimal (negative : Bool) (digits : Nat) (scale : Int) : Double :=
  if digits = 0 || scale + digits.log2 < -1200 then .finite negative 0 leastExponent
  else if 400 < scale then .infinite negative
  else ofRatio negative (digits * Nat.pow 10 scale.toNat) (Nat.pow 10 (-scale).toNat)

/-- Whether a number is zero, of either sign. -/
def isZero : Double → Bool
  | finite _ mantissa _ => mantissa == 0
  | _ => false

/-- The greatest count that 64 bits hold. -/
def greatestCount : Nat := countLimit - 1

/-- A number rounded to a count; a half goes away from zero.  Below zero there is nothing, and
what is too great becomes the greatest count. -/
def toCount : Double → Nat
  | finite true _ _ => 0
  | finite false mantissa exponent =>
    if 0 ≤ exponent then min greatestCount (mantissa * Nat.pow 2 exponent.toNat)
    else
      let unit := Nat.pow 2 (-exponent).toNat
      (2 * mantissa + unit) / (2 * unit)
  | infinite true => 0
  | infinite false => greatestCount
  | undefined => 0

end Double

end TrackBrowser
