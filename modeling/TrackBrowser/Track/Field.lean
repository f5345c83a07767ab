/-
Module: TrackBrowser.Track.Field
Purpose: The named attributes of a track and sets of them.
-/
import TrackBrowser.Text.Blank

namespace TrackBrowser

/-- The attributes of a track that can be shown, searched and sorted by. -/
inductive Field where
  | file
  | artist
  | albumArtist
  | artistSort
  | albumArtistSort
  | title
  | album
  | track
  | trackShort
  | disc
  | date
  | year
  | genre
  | composer
  | performer
  | comment
  | time
  deriving DecidableEq, Repr, Inhabited

/-- A name that belongs to no field, as it was given. -/
structure UnknownField where
  name : String
  deriving DecidableEq, Repr, Inhabited

/-- The complaint about an unknown name. -/
def UnknownField.message (error : UnknownField) : String :=
  "unknown field `" ++ error.name ++ "`"

namespace Field

/-- Every field, in the order in which matching tests them. -/
def all : List Field :=
  [.file, .artist, .albumArtist, .artistSort, .albumArtistSort, .title, .album, .track,
   .trackShort, .disc, .date, .year, .genre, .composer, .performer, .comment, .time]

/-- The name of a field in settings and in lists of sort keys. -/
def name : Field → String
  | .file => "file"
  | .artist => "artist"
  | .albumArtist => "albumartist"
  | .artistSort => "artistsort"
  | .albumArtistSort => "albumartistsort"
  | .title => "title"
  | .album => "album"
  | .track => "track"
  | .trackShort => "trackshort"
  | .disc => "disc"
  | .date => "date"
  | .year => "year"
  | .genre => "genre"
  | .composer => "composer"
  | .performer => "performer"
  | .comment => "comment"
  | .time => "time"

/-- The other name that some fields go by. -/
def alias? : Field → Option String
  | .file => some "filename"
  | .albumArtist => some "album-artist"
  | .artistSort => some "artist-sort"
  | .albumArtistSort => some "album-artist-sort"
  | .trackShort => some "short-track"
  | .time => some "duration"
  | _ => none

/-- Whether a field is sorted by a number that is read from it, and not as text. -/
def isNumeric : Field → Bool
  | .track | .trackShort | .disc | .date | .year | .time => true
  | _ => false

/-- The place of a field in the matching order. -/
def index : Field → Nat
  | .file => 0
  | .artist => 1
  | .albumArtist => 2
  | .artistSort => 3
  | .albumArtistSort => 4
  | .title => 5
  | .album => 6
  | .track => 7
  | .trackShort => 8
  | .disc => 9
  | .date => 10
  | .year => 11
  | .genre => 12
  | .composer => 13
  | .performer => 14
  | .comment => 15
  | .time => 16

/-- The field with a given name or alias.  Blanks around the name and the case of ASCII letters do
not count. -/
def ofName (text : String) : Except UnknownField Field :=
  let key := Text.asciiLower (Text.trimmed text)
  match all.find? fun field => field.name == key || field.alias? == some key with
  | some field => .ok field
  | none => .error ⟨text⟩

end Field

/-- A set of fields, with one bit for each field at its place in the matching order. -/
structure FieldMask where
  bits : BitVec 17
  deriving DecidableEq, Repr, Inhabited

namespace FieldMask

/-- No field. -/
def empty : FieldMask := ⟨0⟩

/-- Every field. -/
def all : FieldMask := ⟨BitVec.allOnes 17⟩

/-- Whether a field is in a set. -/
def contains (mask : FieldMask) (field : Field) : Bool :=
  mask.bits.getLsbD field.index

/-- The fields of either set. -/
def union (left right : FieldMask) : FieldMask :=
  ⟨left.bits ||| right.bits⟩

/-- The set of one field. -/
def single (field : Field) : FieldMask :=
  ⟨BitVec.twoPow 17 field.index⟩

/-- The set of the fields with the given names; the first unknown name is the error. -/
def ofNames (names : List String) : Except UnknownField FieldMask :=
  names.foldlM (fun mask name => return mask.union (.single (← Field.ofName name))) empty

end FieldMask

/-- The set that holds just one field. -/
def Field.mask (field : Field) : FieldMask :=
  .single field

end TrackBrowser
