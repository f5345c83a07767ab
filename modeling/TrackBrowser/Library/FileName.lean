/-
Module: TrackBrowser.Library.FileName
Purpose: The parts of a file's name and of a path: what comes before the extension, the extension,
  and whether the name is hidden.
-/
import TrackBrowser.Library.OsText

/-!
A name is split at its last dot.  A dot at its start begins a hidden name, not an extension, so
`.mp3` has no extension and `.a.mp3` has one.  What is asked of the text of a name fails where the
name is not text: such a name is not hidden, whatever it starts with.
-/

namespace TrackBrowser.FileName

/-- Whether a name is text that starts with a dot. -/
def isHidden (name : OsText) : Bool :=
  match name.text? with
  | some text => text.toList.head? == some '.'
  | none => false

/-- What comes before the last dot of a name and what comes after it, if that dot splits the
name. -/
def splitAtDot? (name : OsText) : Option (OsText × OsText) :=
  match name.reverse.dropWhile (· != .char '.') with
  | [] => none
  | [_] => none
  | _ :: before => some (before.reverse, (name.reverse.takeWhile (· != .char '.')).reverse)

/-- A name without its extension. -/
def stem (name : OsText) : OsText :=
  match splitAtDot? name with
  | some (before, _) => before
  | none => name

/-- The extension of a name, if it is text. -/
def extension? (name : OsText) : Option String :=
  (splitAtDot? name).bind fun (_, after) => after.text?

/-- The parts of a path between its slashes.  A path that starts with a slash has an empty first
part. -/
def ofPath (path : OsText) : List OsText :=
  match path with
  | [] => [[]]
  | unit :: rest =>
    if unit == .char '/' then [] :: ofPath rest
    else
      match ofPath rest with
      | [] => [[unit]]
      | part :: more => (unit :: part) :: more

/-- Whether a path starts at the top folder, wherever it is followed from. -/
def isAbsolute (path : OsText) : Bool :=
  path.head? == some (.char '/')

/-- The name that a path ends with; a part that only says `here` is no name. -/
def ofPathEnd (path : OsText) : OsText :=
  ((ofPath path).filter fun (part : OsText) => part != "" && part != ".").getLastD ""

end TrackBrowser.FileName
