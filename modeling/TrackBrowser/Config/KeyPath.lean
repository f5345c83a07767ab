/-
Module: TrackBrowser.Config.KeyPath
Purpose: Paths to values inside a configuration.
-/
import TrackBrowser.Config.Value
import TrackBrowser.Number.Numeral

/-!
The names at the top of a configuration are read as paths: names with dots between them, and
indices in brackets.  A name that is no path stands for itself.
-/

namespace TrackBrowser

/-- One step from a value to a value inside it.  Negative indices count from the end. -/
inductive KeyStep where
  | name (name : String)
  | index (index : Int)
  deriving DecidableEq, Repr, Inhabited

/-- A path from the top of a configuration. -/
abbrev KeyPath := List KeyStep

namespace KeyPath

/-- The characters that names in a path consist of. -/
def isNameChar (c : Char) : Bool :=
  c.isAlphanum || c == '_' || c == '-'

/-- The number between two brackets; there may be gaps around it. -/
def index? (text : List Char) : Option Int :=
  let isGap := fun c : Char => c == ' ' || c == '\t'
  let number := ((text.dropWhile isGap).reverse.dropWhile isGap).reverse
  if number.head? == some '+' then none else Numeral.integer? number

/-- The steps after the first name. -/
def steps? (text : List Char) : Option KeyPath :=
  match text with
  | [] => some []
  | '.' :: rest =>
    let name := rest.takeWhile isNameChar
    if name.isEmpty then none
    else (steps? (rest.dropWhile isNameChar)).map (.name (String.ofList name) :: ·)
  | '[' :: rest =>
    match _ : rest.dropWhile (· != ']'), index? (rest.takeWhile (· != ']')) with
    | _ :: after, some index => (steps? after).map (.index index :: ·)
    | _, _ => none
  | _ => none
termination_by text.length
decreasing_by
  · have shorter := (List.dropWhile_suffix isNameChar : rest.dropWhile _ <:+ rest).length_le
    simp
    omega
  · have shorter := (List.dropWhile_suffix (· != ']') : rest.dropWhile _ <:+ rest).length_le
    simp_all
    omega

/-- Reads a path. -/
def parse? (text : String) : Option KeyPath :=
  let name := text.toList.takeWhile isNameChar
  if name.isEmpty then none
  else (steps? (text.toList.dropWhile isNameChar)).map (.name (String.ofList name) :: ·)

/-- The path that a name at the top of a configuration stands for. -/
def ofName (text : String) : KeyPath :=
  (parse? text).getD [.name text]

end KeyPath

namespace ConfigValue

/-- The items of a list, extended so that it has the index, and the index counted from the
front.  Places before a negative index that is out of range are filled in front. -/
def reachIndex (items : List ConfigValue) (index : Int) : List ConfigValue × Nat :=
  if 0 ≤ index then
    (items ++ List.replicate (index.toNat + 1 - items.length) absent, index.toNat)
  else
    let missing := (-index).toNat - items.length
    (List.replicate missing absent ++ items, items.length + missing - (-index).toNat)

/-- Lays a value over what is at the end of a path.  Whatever on the way is not a table or a list,
as the path wants it, is replaced by one. -/
def put (value : ConfigValue) (path : KeyPath) (new : ConfigValue) : ConfigValue :=
  match path with
  | [] => value.merge new
  | .name name :: rest =>
    table (value.entries.put name (((value.get? name).getD absent).put rest new))
  | .index index :: rest =>
    let (items, place) := reachIndex value.items index
    list (items.modify place fun old => old.put rest new)

/-- Lays a source over a configuration. -/
def addSource (config : ConfigValue) (source : Named ConfigValue) : ConfigValue :=
  source.foldl (fun config (name, value) => config.put (KeyPath.ofName name) value) config

end ConfigValue

end TrackBrowser
