/-
Module: TrackBrowser.Config.Conversion
Purpose: Configuration values as truth values, counts and texts.
-/
import TrackBrowser.Config.Value
import TrackBrowser.Number.Numeral
import TrackBrowser.Number.Shortest
import TrackBrowser.Unicode.Lowercase

/-!
A value is converted to the type that is wanted where it has a meaning there: a number is a text, a
truth value is a count, and words such as `on` are truth values.  Lists and tables convert to
nothing else.
-/

namespace TrackBrowser.ConfigValue

/-- The truth value that a word stands for; capitals count as small letters. -/
def wordFlag? (text : String) : Option Bool :=
  let small := String.ofList (Unicode.lowerText text.toList)
  if ["true", "on", "yes"].contains small then some true
  else if ["false", "off", "no"].contains small then some false
  else none

/-- A value as a truth value.  Every number but zero is true. -/
def toFlag? : ConfigValue → Option Bool
  | flag value => some value
  | integer value => some (value != 0)
  | real value => some (!value.isZero)
  | text value =>
    if value == "1" then some true else if value == "0" then some false else wordFlag? value
  | _ => none

/-- A value as a count.  Numbers are rounded, and negative integers are no counts. -/
def toCount? : ConfigValue → Option Nat
  | flag value => some value.toNat
  | integer value => if 0 ≤ value then some value.toNat else none
  | real value => some value.toCount
  | text value =>
    match wordFlag? value with
    | some truth => some truth.toNat
    | none => Numeral.count? value.toList
  | _ => none

/-- A value as a text. -/
def toText? : ConfigValue → Option String
  | flag value => some (if value then "true" else "false")
  | integer value => some (Text.decimalInt value)
  | real value => some value.text
  | text value => some value
  | _ => none

/-- A list of values as texts. -/
def toTexts? : ConfigValue → Option (List String)
  | list items => items.mapM toText?
  | _ => none

/-- A value that may be left out. -/
def toOption? {α : Type} (convert : ConfigValue → Option α) : ConfigValue → Option (Option α)
  | absent => some none
  | value => (convert value).map some

/-- The value of a field, by its name in a table or by its position in a list. -/
def field? (section_ : ConfigValue) (position : Nat) (name : String) : Option ConfigValue :=
  match section_ with
  | list items => items[position]?
  | value => value.get? name

/-- Whether a value can hold fields. -/
def holdsFields : ConfigValue → Bool
  | list _ => true
  | table _ => true
  | _ => false

/-- Reads a field; one that is missing has its default. -/
def read? {α : Type} (section_ : ConfigValue) (position : Nat) (name : String)
    (convert : ConfigValue → Option α) (default : α) : Option α :=
  match section_.field? position name with
  | none => some default
  | some value => convert value

end TrackBrowser.ConfigValue
