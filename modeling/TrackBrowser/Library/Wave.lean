/-
Module: TrackBrowser.Library.Wave
Purpose: The length and the tags of wave files.
-/
import TrackBrowser.Text.Blank

/-!
A wave file is a sequence of chunks, each with a four-byte name, its size, and as many bytes,
filled up to an even number.  The format chunk gives the bytes per second, the data chunk the
sound, and a list chunk of kind `INFO` the tags.  A file without sound cannot be read at all.
-/

namespace TrackBrowser.Wave

/-- A named run of bytes. -/
structure Chunk where
  name : String
  body : List UInt8
  deriving DecidableEq, Repr, Inhabited

/-- The number that bytes denote, the least byte first. -/
def number (bytes : List UInt8) : Nat :=
  bytes.foldr (fun byte high => byte.toNat + 256 * high) 0

/-- The text of bytes in UTF-8, if they are well formed. -/
def text? (bytes : List UInt8) : Option String :=
  String.fromUTF8? (ByteArray.mk bytes.toArray)

/-- The chunks that bytes consist of.  Bytes too few for the start of a chunk are dropped. -/
def chunks (bytes : List UInt8) : List Chunk :=
  if bytes.length < 8 then []
  else
    let size := number ((bytes.drop 4).take 4)
    let rest := bytes.drop 8
    ⟨(text? (bytes.take 4)).getD "", rest.take size⟩ :: chunks (rest.drop (size + size % 2))
termination_by bytes.length
decreasing_by simp; omega

/-- The name and size of the bytes that every wave file starts with. -/
def isWave (bytes : List UInt8) : Bool :=
  text? (bytes.take 4) == some "RIFF" && text? ((bytes.drop 8).take 4) == some "WAVE"

/-- The texts of tags by name, in their order in the file. -/
def tagsOf (chunk : Chunk) : List (String × String) :=
  if chunk.name == "LIST" && text? (chunk.body.take 4) == some "INFO" then
    (chunks (chunk.body.drop 4)).filterMap fun tag =>
      let bytes := (tag.body.reverse.dropWhile (· == 0)).reverse
      (text? bytes).map fun value => (tag.name, value)
  else []

/-- What a wave file says of itself. -/
structure Recording where
  seconds : Nat
  tags : List (String × String)
  deriving DecidableEq, Repr, Inhabited

/-- The text of a tag without the blanks around it; empty when there is no such tag. -/
def Recording.tag (recording : Recording) (name : String) : String :=
  Text.trimmed ((recording.tags.lookup name).getD "")

/-- Reads a wave file.  It needs a full format chunk with at least one channel, and sound. -/
def read? (bytes : List UInt8) : Option Recording := do
  guard (isWave bytes)
  let all := chunks (bytes.drop 12)
  let format ← all.find? (·.name == "fmt ")
  let sound ← all.find? fun chunk => chunk.name == "data" && !chunk.body.isEmpty
  guard (16 ≤ format.body.length && 0 < number ((format.body.drop 2).take 2))
  let rate := number ((format.body.drop 8).take 4)
  return { seconds := sound.body.length / rate, tags := all.flatMap tagsOf }

end TrackBrowser.Wave
