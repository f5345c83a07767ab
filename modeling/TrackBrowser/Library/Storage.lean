/-
Module: TrackBrowser.Library.Storage
Purpose: Folders, files and links as they are stored, and where a path through them leads.
-/
import TrackBrowser.Library.FileName
import TrackBrowser.Named

/-!
An entry is a file, a folder of named entries, or a link that stands for another path.  The top
folder is that of the whole file system, so a path that starts with a slash starts there.  A place
is the list of names that leads to an entry from the top folder without following links, so equal
places are the same entry.
-/

namespace TrackBrowser

/-- What a name stands for. -/
inductive Entry where
  | file (content : List UInt8)
  | link (target : OsText)
  | folder (entries : List (OsText × Entry))
  deriving Repr, Inhabited

/-- The names that lead to an entry from the top folder, outermost first. -/
abbrev Place := List OsText

namespace Entry

/-- The entry of a name in a folder. -/
def child? (entry : Entry) (name : OsText) : Option Entry :=
  match entry with
  | folder entries => entries.lookup name
  | _ => none

/-- The entry at a place. -/
def at? (entry : Entry) (place : Place) : Option Entry :=
  place.foldlM child? entry

/-- The names in a folder. -/
def names (entry : Entry) : List OsText :=
  match entry with
  | folder entries => entries.map (·.1)
  | _ => []

/-- Whether an entry is a folder. -/
def isFolder : Entry → Bool
  | folder _ => true
  | _ => false

/-- The number of entries below and including an entry. -/
def size : Entry → Nat
  | file _ => 1
  | link _ => 1
  | folder entries => 1 + sizeOfAll entries
where
  /-- The number of entries in and below a list of them. -/
  sizeOfAll : List (OsText × Entry) → Nat
    | [] => 0
    | (_, entry) :: rest => size entry + sizeOfAll rest

/-- Puts an entry at a place and makes the folders on the way.  A folder put where there is one
already changes nothing. -/
def put (entry : Entry) (place : Place) (leaf : Entry) : Entry :=
  match place with
  | [] => if leaf.isFolder && entry.isFolder then entry else leaf
  | name :: rest =>
    let child := (entry.child? name).getD (folder [])
    let entries :=
      match entry with
      | folder entries => entries
      | _ => []
    folder (Named.put entries name (child.put rest leaf))

/-- The place that parts of a path lead to from a place.  Only a folder has parts below it; two
dots lead out of it, but not out of the top folder.  A link leads on from the folder that holds it,
or from the top folder if its target is absolute, unless the path has passed through too many links
already. -/
def follow? (top : Entry) (links : Nat) (place : Place) (parts : List OsText) : Option Place :=
  match parts with
  | [] => some place
  | part :: rest =>
    if (top.at? place).any isFolder then
      if part == "" || part == "." then top.follow? links place rest
      else if part == ".." then top.follow? links place.dropLast rest
      else
        match top.at? (place ++ [part]) with
        | none => none
        | some (link target) =>
          match _ : links with
          | 0 => none
          | fewer + 1 =>
            let base := if FileName.isAbsolute target then [] else place
            top.follow? fewer base (FileName.ofPath target ++ rest)
        | some _ => top.follow? links (place ++ [part]) rest
    else none
termination_by (links, parts.length)

/-- The most links that one path may pass through. -/
def linkLimit : Nat := 40

/-- The place that a path leads to from the top folder. -/
def resolve? (top : Entry) (path : OsText) : Option Place :=
  top.follow? linkLimit [] (FileName.ofPath path)

end Entry

end TrackBrowser
