/-
Module: TrackBrowser.Text.Digits
Purpose: Decimal numerals: writing numbers and reading runs of digits.
-/

namespace TrackBrowser.Text

/-- The decimal digit for a number below ten. -/
def digitChar (digit : Nat) : Char :=
  Char.ofNat ('0'.toNat + digit)

/-- Whether a character is one of the ten ASCII digits. -/
def isDigit (c : Char) : Bool :=
  '0' ≤ c && c ≤ '9'

/-- The value of an ASCII digit. -/
def digitValue (c : Char) : Nat :=
  c.toNat - '0'.toNat

/-- The decimal digits of a number, without leading zeros; zero is one digit. -/
def digits (n : Nat) : List Char :=
  if n < 10 then [digitChar n] else digits (n / 10) ++ [digitChar (n % 10)]

/-- The number that a run of digits denotes. -/
def valueOf (text : List Char) : Nat :=
  text.foldl (fun total c => 10 * total + digitValue c) 0

/-- The decimal numeral of a number. -/
def decimal (n : Nat) : String :=
  String.ofList (digits n)

/-- The digits of a number, filled up with zeros to at least `width` digits. -/
def paddedDigits (width n : Nat) : List Char :=
  List.replicate (width - (digits n).length) '0' ++ digits n

/-- The decimal numeral of an integer: negative ones start with a hyphen. -/
def decimalInt (n : Int) : String :=
  if n < 0 then "-" ++ decimal n.natAbs else decimal n.natAbs

end TrackBrowser.Text
