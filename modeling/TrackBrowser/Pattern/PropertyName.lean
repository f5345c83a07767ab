/-
Module: TrackBrowser.Pattern.PropertyName
Purpose: What the names in property expressions stand for.
-/
import TrackBrowser.Pattern.CharSet

/-!
Names are compared loosely: case, blanks, hyphens, underscores and everything outside ASCII do not
count, nor does an initial "is".  A lone name is looked for among the two-valued properties, then
among the general categories, then among the scripts.
-/

namespace TrackBrowser.Pattern

open TrackBrowser.Unicode

namespace PropertyName

/-- The form of a name that is compared.  The abbreviation `isc` keeps its first letters, because
without them it would be the category `c`. -/
def normalize (name : List Char) : String :=
  let simplify (text : List Char) : List Char :=
    (text.filter fun c => c.toNat < 0x80 && !(c == ' ' || c == '_' || c == '-')).map Char.toLower
  match name with
  | first :: second :: rest =>
    if first.toLower == 'i' && second.toLower == 's' then
      let simplified := simplify rest
      if simplified == ['c'] then "isc" else String.ofList simplified
    else String.ofList (simplify name)
  | _ => String.ofList (simplify name)

/-- The general categories by their names. -/
def categoryNames : List (String × List String) :=
  [("C", ["c", "other"]), ("Cc", ["cc", "control", "cntrl"]), ("Cf", ["cf", "format"]),
   ("Cn", ["cn", "unassigned"]), ("Co", ["co", "privateuse"]), ("L", ["l", "letter"]),
   ("LC", ["lc", "casedletter"]), ("Ll", ["ll", "lowercaseletter"]),
   ("Lm", ["lm", "modifierletter"]), ("Lo", ["lo", "otherletter"]),
   ("Lt", ["lt", "titlecaseletter"]), ("Lu", ["lu", "uppercaseletter"]),
   ("M", ["m", "mark", "combiningmark"]), ("Mc", ["mc", "spacingmark"]),
   ("Me", ["me", "enclosingmark"]), ("Mn", ["mn", "nonspacingmark"]), ("N", ["n", "number"]),
   ("Nd", ["nd", "decimalnumber", "digit"]), ("Nl", ["nl", "letternumber"]),
   ("No", ["no", "othernumber"]), ("P", ["p", "punctuation", "punct"]),
   ("Pc", ["pc", "connectorpunctuation"]), ("Pd", ["pd", "dashpunctuation"]),
   ("Pe", ["pe", "closepunctuation"]), ("Pf", ["pf", "finalpunctuation"]),
   ("Pi", ["pi", "initialpunctuation"]), ("Po", ["po", "otherpunctuation"]),
   ("Ps", ["ps", "openpunctuation"]), ("S", ["s", "symbol"]), ("Sc", ["sc", "currencysymbol"]),
   ("Sk", ["sk", "modifiersymbol"]), ("Sm", ["sm", "mathsymbol"]),
   ("So", ["so", "othersymbol"]), ("Z", ["z", "separator"]), ("Zl", ["zl", "lineseparator"]),
   ("Zp", ["zp", "paragraphseparator"]), ("Zs", ["zs", "spaceseparator"])]

/-- The names of properties with more than two values that are also names of a category or a
script.  Such a name alone never means the property. -/
def reserved : List String :=
  ["cf", "sc", "lc"]

/-- The property that consists of being in one of the general categories of a name. -/
def category? (name : String) : Option CharProperty :=
  if name == "any" then some .any
  else if name == "assigned" then some .assigned
  else if name == "ascii" then some .ascii
  else
    (categoryNames.find? fun entry => entry.2.contains name).map fun entry =>
      .categories (Category.members entry.1)

/-- The script with a given name. -/
def script? (name : String) : Option Script :=
  (Script.names.find? fun entry => entry.2.contains name).map fun entry => ⟨entry.1⟩

/-- The two-valued property with a given name. -/
def binary? (name : String) : Option Property :=
  (Property.names.find? fun entry => entry.2.contains name).map (·.1)

/-- What a lone name stands for. -/
def lookup? (name : List Char) : Option CharProperty :=
  let name := normalize name
  let binary := if reserved.contains name then none else binary? name
  match binary with
  | some wanted => some (.binary wanted)
  | none =>
    match category? name with
    | some wanted => some wanted
    | none => (script? name).map .script

/-- What a name with a value stands for, such as the name of a script after `script`. -/
def lookupValue? (name value : List Char) : Option CharProperty :=
  let name := normalize name
  let value := normalize value
  if ["generalcategory", "gc"].contains name then category? value
  else if ["script", "sc"].contains name then (script? value).map .script
  else if ["scriptextensions", "scx"].contains name then (script? value).map .scriptExtension
  else if name == "age" then (Age.upTo? value).map .age
  else if ["graphemeclusterbreak", "gcb"].contains name then
    (ClusterClass.ofName? value).map .clusterClass
  else if ["wordbreak", "wb"].contains name then
    (BreakKind.word.ofName? value).map (.breakClass .word)
  else if ["sentencebreak", "sb"].contains name then
    (BreakKind.sentence.ofName? value).map (.breakClass .sentence)
  else none

/-- Cuts a text at the first place where `mark` stands. -/
def cutAt? (mark : List Char) : List Char → Option (List Char × List Char)
  | [] => none
  | c :: rest =>
    if mark.isPrefixOf (c :: rest) then some ([], (c :: rest).drop mark.length)
    else (cutAt? mark rest).map fun (before, after) => (c :: before, after)

/-- What the text between the braces of a property expression stands for.  A value may follow the
name after `!=`, `:` or `=`, looked for in this order. -/
def ofBraces? (text : List Char) : Option CharProperty :=
  match cutAt? ['!', '='] text with
  | some (name, value) => lookupValue? name value
  | none =>
    match cutAt? [':'] text with
    | some (name, value) => lookupValue? name value
    | none =>
      match cutAt? ['='] text with
      | some (name, value) => lookupValue? name value
      | none => lookup? text

end PropertyName

end TrackBrowser.Pattern
