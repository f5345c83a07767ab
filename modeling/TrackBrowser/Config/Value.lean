/-
Module: TrackBrowser.Config.Value
Purpose: Configuration values, and laying one over another.
-/
import TrackBrowser.Named
import TrackBrowser.Number.Double

/-!
A configuration is a table of values.  Sources are laid over each other: tables are merged name by
name, and any other value replaces what was there.
-/

namespace TrackBrowser

/-- A configuration value.  `absent` fills the places of a list before one that was set. -/
inductive ConfigValue where
  | absent
  | flag (value : Bool)
  | integer (value : Int)
  | real (value : Double)
  | text (value : String)
  | list (items : List ConfigValue)
  | table (entries : List (String × ConfigValue))
  deriving Repr, Inhabited

namespace ConfigValue

/-- The names and values of a table; anything else has none. -/
def entries : ConfigValue → Named ConfigValue
  | table entries => entries
  | _ => []

/-- The items of a list; anything else has none. -/
def items : ConfigValue → List ConfigValue
  | list items => items
  | _ => []

/-- The value of a name in a table. -/
def get? (value : ConfigValue) (name : String) : Option ConfigValue :=
  value.entries.lookup name

/-- Lays a value over another. -/
def merge (old : ConfigValue) : ConfigValue → ConfigValue
  | table entries => table (mergeAll old.entries entries)
  | new => new
where
  /-- Lays the values of a table over those of another. -/
  mergeAll (old : Named ConfigValue) : List (String × ConfigValue) → Named ConfigValue
    | [] => old
    | (name, value) :: rest =>
      mergeAll (old.put name (merge ((old.lookup name).getD absent) value)) rest

end ConfigValue

end TrackBrowser
