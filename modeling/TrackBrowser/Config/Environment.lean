/-
Module: TrackBrowser.Config.Environment
Purpose: Configuration from environment variables.
-/
import TrackBrowser.Config.Value
import TrackBrowser.Number.Numeral
import TrackBrowser.Unicode.Lowercase

/-!
A variable whose name begins with the prefix sets a value.  The rest of its name is the path, with
two underscores where the path has a dot, and letters count as small.  Its text is read as a truth
value, an integer or a number where it is one.
-/

namespace TrackBrowser.Environment

/-- The variables of an environment. -/
abbrev Variables := Named String

/-- How the names of variables that set values begin, in small letters. -/
def namePrefix : List Char := "tracklist__".toList

/-- Writes a dot for every two underscores. -/
def withDots : List Char → List Char
  | '_' :: '_' :: rest => '.' :: withDots rest
  | c :: rest => c :: withDots rest
  | [] => []

/-- The path that a variable sets, if it sets one. -/
def pathOf? (name : String) : Option String :=
  let small := Unicode.lowerText name.toList
  if namePrefix.isPrefixOf small then
    some (String.ofList (withDots (small.drop namePrefix.length)))
  else none

/-- The truth value that a text is a word for. -/
def flag? (text : String) : Option Bool :=
  let small := Unicode.lowerText text.toList
  if small == "true".toList then some true
  else if small == "false".toList then some false
  else none

/-- The value that a text stands for. -/
def valueOf (text : String) : ConfigValue :=
  match flag? text, Numeral.integer? text.toList, Numeral.double? text.toList with
  | some value, _, _ => .flag value
  | none, some value, _ => .integer value
  | none, none, some value => .real value
  | none, none, none => .text text

/-- The values that an environment sets.  Of two variables for one path the later counts. -/
def source (environment : Variables) : Named ConfigValue :=
  environment.foldl
    (fun entries (name, text) =>
      match pathOf? name with
      | some path => Named.put entries path (valueOf text)
      | none => entries)
    []

end TrackBrowser.Environment
