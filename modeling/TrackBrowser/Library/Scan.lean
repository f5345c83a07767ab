/-
Module: TrackBrowser.Library.Scan
Purpose: The tracks of a folder: which of its files are audio files and what is known of each.
-/
import TrackBrowser.Library.Storage
import TrackBrowser.Library.Wave
import TrackBrowser.Settings.Basic
import TrackBrowser.Track.Basic

/-!
A scan lists every file below a folder, keeps the audio files that the settings admit, and makes a
track of each, in the order of their paths as they are shown.  A link to a file counts as that file.
A link to a folder is entered only when links are followed, and never into a folder that the scan is
already in, so a scan ends.
-/

namespace TrackBrowser

/-- A file that a scan came across, with the names that lead to it from where the scan began. -/
structure FoundFile where
  names : List OsText
  content : List UInt8
  deriving DecidableEq, Repr, Inhabited

namespace FoundFile

/-- The same file seen from one folder further out. -/
def under (found : FoundFile) (folder : OsText) : FoundFile :=
  { found with names := folder :: found.names }

/-- The path of a file. -/
def path (found : FoundFile) : OsText :=
  List.intercalate [.char '/'] found.names

/-- The name of a file.  Where the scan began at the file itself, it has the name of that start. -/
def name (found : FoundFile) (start : OsText) : OsText :=
  found.names.getLastD start

end FoundFile

namespace Library

/-- The files below a folder, down to a number of levels.  `above` are the folders that the scan
passed on its way, and `path` are the parts of the path by which it came here.  What a link stands
for is asked of its path, so all links on that path count. -/
def filesBelow (top : Entry) (followLinks : Bool) :
    (levels : Nat) → (above : List Place) → (path : List OsText) → (here : Place) → List FoundFile
  | 0, _, _, _ => []
  | levels + 1, above, path, here =>
    (((top.at? here).map Entry.names).getD []).flatMap fun name =>
      let there := here ++ [name]
      let enter := filesBelow top followLinks levels (here :: above) (path ++ [name])
      let found : List FoundFile :=
        match top.at? there with
        | some (.file content) => [⟨[], content⟩]
        | some (.folder _) => enter there
        | some (.link _) =>
          match top.follow? Entry.linkLimit [] (path ++ [name]) with
          | none => []
          | some place =>
            match top.at? place with
            | some (.file content) => [⟨[], content⟩]
            | some (.folder _) =>
              if followLinks && !(here :: above).contains place then enter place else []
            | _ => []
        | none => []
      found.map (·.under name)

/-- The deepest level that a scan looks at: the files in the folder itself are at level one. -/
def depthLimit? (settings : LibrarySettings) : Option Nat :=
  if settings.recursive then settings.maxDepth else some 1

/-- More levels than a scan can enter: between two links it goes down a chain of folders, and each
link leads to a folder that it is not in yet. -/
def levelBound (top : Entry) : Nat :=
  (top.size + 1) * (top.size + 1)

/-- The files that a scan comes across from a start, which may itself be a file. -/
def filesFrom (top : Entry) (start : OsText) (settings : LibrarySettings) : List FoundFile :=
  match top.resolve? start with
  | none => []
  | some place =>
    match top.at? place with
    | some (.file content) => [⟨[], content⟩]
    | some (.folder _) =>
      let bound := levelBound top
      let levels := ((depthLimit? settings).map (min bound)).getD bound
      filesBelow top settings.followLinks levels [] (FileName.ofPath start) place
    | _ => []

/-- The extensions that the settings ask for, without blanks around them and dots before them. -/
def wantedExtensions (settings : LibrarySettings) : List String :=
  let cleaned := settings.extensions.map fun extension =>
    Text.asciiLower (String.ofList ((Text.trim extension.toList).dropWhile (· == '.')))
  cleaned.filter (· != "")

/-- Whether the settings count a name as that of an audio file. -/
def isAudioName (settings : LibrarySettings) (name : OsText) : Bool :=
  match FileName.extension? name with
  | some extension => (wantedExtensions settings).contains (Text.asciiLower extension)
  | none => false

/-- Whether a scan that began at `start` keeps a file. -/
def keeps (settings : LibrarySettings) (start : OsText) (found : FoundFile) : Bool :=
  let name := found.name start
  (settings.includeHidden || (name :: found.names).all (!FileName.isHidden ·)) &&
    isAudioName settings name

/-- The extensions of files whose tags can be read. -/
def isWaveName (name : OsText) : Bool :=
  match (FileName.extension? name).map Text.asciiLower with
  | some extension => extension == "wav" || extension == "wave"
  | none => false

/-- What is known of a file.  Its path is stored as it is shown.  A file whose tags cannot be read
has its name for a title, if that is text.  Of the formats that tags come in only the wave format is
read here, and files of all others count as without tags. -/
def trackOf (start : OsText) (found : FoundFile) : Track :=
  let name := found.name start
  let bare : Track :=
    { file := found.path.lossy, title := (FileName.stem name).text?.getD "UNKNOWN" }
  let recording := if isWaveName name then Wave.read? found.content else none
  let track :=
    match recording with
    | none => bare
    | some recording =>
      let title := recording.tag "INAM"
      { bare with
        title := if title.isEmpty then bare.title else title
        artist := recording.tag "IART"
        album := recording.tag "IPRD"
        date := recording.tag "ICRD"
        track := recording.tag "IPRT"
        genre := recording.tag "IGNR"
        comment := recording.tag "ICMT"
        time := some recording.seconds }
  track.deriveFields

/-- The tracks of a folder, or of a single file, ordered by path. -/
def scan (top : Entry) (start : OsText) (settings : LibrarySettings) : List Track :=
  let name := FileName.ofPathEnd start
  let kept := (filesFrom top start settings).filter (keeps settings name)
  (kept.map (trackOf name)).mergeSort fun a b => a.file ≤ b.file

end Library

end TrackBrowser
