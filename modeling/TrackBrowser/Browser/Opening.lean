/-
Module: TrackBrowser.Browser.Opening
Purpose: The views that the program starts with.
-/
import TrackBrowser.Browser.Keys
import TrackBrowser.Library.Scan
import TrackBrowser.TrackList.Ordering

namespace TrackBrowser

/-- A text filled up with blanks to a width. -/
def padRight (width : Nat) (text : String) : String :=
  text ++ String.ofList (List.replicate (width - text.length) ' ')

/-- The rows of the list of key bindings. -/
def keyBindingRows : List String :=
  keyBindings.map fun (keys, action) => padRight 12 keys ++ action

/-- The view of the library: its tracks in the configured order, and read-only. -/
def libraryView (settings : Settings) (tracks : List Track) : View :=
  let list := (ListDefaults.ofSettings settings.list).newList
  .ofTracks .library "Library" (((list.load tracks).sort settings.list.sort).setReadOnly true)

namespace Browser

/-- The program over the tracks of a library: the library, an empty playlist, and the key
bindings.  The list of windows comes last. -/
def ofLibrary (settings : Settings) (tracks : List Track) : Browser :=
  let defaults := ListDefaults.ofSettings settings.list
  let views :=
    [libraryView settings tracks, View.ofTracks .playlist "Playlist" defaults.newList,
      View.ofRows .bindings "Bindings" keyBindingRows]
  (ofViews views).setDefaults defaults

/-- The program over the audio files of a folder. -/
def openFolder (top : Entry) (start : OsText) (settings : Settings) : Browser :=
  ofLibrary settings (Library.scan top start settings.library)

end Browser

end TrackBrowser
