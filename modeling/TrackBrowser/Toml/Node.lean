/-
Module: TrackBrowser.Toml.Node
Purpose: Tables while a TOML text is being read, and the rules on where they may be extended.
-/
import TrackBrowser.Config.Value

/-!
A table can come to be in three ways: by a header of its own, by a header of a table inside it, or
by a dotted key.  A header may name a table that so far only the headers of inner tables made.  A
dotted key may extend a table that dotted keys made.  Values in braces and brackets are closed.
-/

namespace TrackBrowser.Toml

/-- How a table came to be. -/
inductive Origin where
  | header
  | innerHeader
  | dottedKey
  deriving DecidableEq, Repr, Inhabited

/-- What a key stands for so far: a closed value, a table, or tables that follow each other under
one name, the last one first. -/
inductive Node where
  | value (value : ConfigValue)
  | table (origin : Origin) (entries : List (String × Node))
  | tables (latest : List (String × Node)) (earlier : List (List (String × Node)))
  deriving Repr, Inhabited

/-- The entries of a table, in the order of their keys' first appearance. -/
abbrev Entries := Named Node

namespace Entries

/-- Changes the table that a key leads to.  `dotted` says that the key is part of a dotted key, and
so may not lead into a table with a header of its own. -/
def into? (entries : Entries) (key : String) (dotted : Bool)
    (change : Option Origin → Entries → Option Entries) : Option Entries :=
  match entries.lookup key with
  | none => do
    let origin := if dotted then Origin.dottedKey else Origin.innerHeader
    return Named.put entries key (.table origin (← change (some origin) []))
  | some (.value _) => none
  | some (.table origin inner) =>
    if dotted && origin == .header then none
    else do return Named.put entries key (.table origin (← change (some origin) inner))
  | some (.tables latest earlier) => do
    return Named.put entries key (.tables (← change (some .header) latest) earlier)

/-- Changes the table at the end of a path of keys. -/
def along? (entries : Entries) (path : List String) (dotted : Bool) (origin : Option Origin)
    (change : Option Origin → Entries → Option Entries) : Option Entries :=
  match path with
  | [] => change origin entries
  | key :: rest =>
    entries.into? key dotted fun origin inner => along? inner rest dotted origin change

/-- Gives a key a value.  The table that a dotted key leads to is one that dotted keys made. -/
def assign? (entries : Entries) (path : List String) (key : String) (value : ConfigValue) :
    Option Entries :=
  entries.along? path true none fun origin inner =>
    if !path.isEmpty && origin != some .dottedKey then none
    else if (inner.lookup key).isSome then none
    else some (Named.put inner key (.value value))

/-- Opens the table of a header: one that is new, or that only the headers of inner tables made. -/
def openTable? (entries : Entries) (path : List String) (key : String) : Option Entries :=
  entries.along? path false none fun _ inner =>
    match inner.lookup key with
    | none => some (Named.put inner key (.table .header []))
    | some (.table .innerHeader old) => some (Named.put inner key (.table .header old))
    | _ => none

/-- Opens a further table under one name. -/
def openFurther? (entries : Entries) (path : List String) (key : String) : Option Entries :=
  entries.along? path false none fun _ inner =>
    match inner.lookup key with
    | none => some (Named.put inner key (.tables [] []))
    | some (.tables latest earlier) => some (Named.put inner key (.tables [] (latest :: earlier)))
    | _ => none

end Entries

namespace Node

/-- The value that a node comes to. -/
def toValue : Node → ConfigValue
  | value closed => closed
  | table _ entries => .table (entryValues entries)
  | tables latest earlier => .list (tableValues earlier [.table (entryValues latest)])
where
  /-- The values of entries. -/
  entryValues : List (String × Node) → List (String × ConfigValue)
    | [] => []
    | (key, node) :: rest => (key, toValue node) :: entryValues rest
  /-- The values of tables, the last one first, before those already known. -/
  tableValues : List (List (String × Node)) → List ConfigValue → List ConfigValue
    | [], known => known
    | entries :: earlier, known => tableValues earlier (.table (entryValues entries) :: known)

end Node

end TrackBrowser.Toml
