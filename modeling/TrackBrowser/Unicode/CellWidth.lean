/-
Module: TrackBrowser.Unicode.CellWidth
Purpose: How many cells of a terminal a cluster takes.
-/
import TrackBrowser.Unicode.Cluster

/-!
Most characters take one cell, East Asian wide ones two, and marks none.  The width of a cluster is
the sum of the widths of its characters, except that an emoji sequence is two cells wide however
many characters it has.
-/

namespace TrackBrowser.Unicode

/-- The characters that take two cells. -/
def wideTable : RunTable Bool :=
  .ofLengths
    ["1100 60 11ba 2 d 2 be 4 3 1 2 1 209 2 15 2 1a 8 10 c 2b 1 a 6 3 1 d 1 8 2 11 2 5 2 8 1 5 1",
    "15 1 7 2 1 1 4 1 2 1 7 1 4 2 1c 1 23 1 1 1 4 3 1 1 3d 3 18 1 e 1 35b 2 33 1 4 1 32a 1a 1",
    "59 c d6 1a 4f 2 56 2 67 5 2b 1 5e 1 56 9 30 1 28 8 723d 3 37 499 1d 283 2ba4 215c 200 310",
    "a 16 23 1 13 1 4 95 60 7f 7 6ff9 5 b 2 e 17f8 8 4d6 29 a 22e7 4 1 7 1 2 1 123 f 1 1d 3 2 1",
    "e 4 8 18c 2004 57 9 17 1c8d 1 ca 1 be 1 2 a 65 3 d 2c 4 9 7 2 e 6 9a 21 c 9 1 46 1 16 c 2b",
    "4 5 c 11 3 1 3 47 1 1 1 bb 2 3f d 4 1 18 12 1 1a 2 d 1 56 55 30 46 6 1 3 3 2 3 4 4 b 2 7 9",
    "e3 c 4 1 11b 2f 1 a 1 b9 70 d 3 a 5 38 7 f 2 b 6 9 507 fffe 2 fffe"]

/-- Characters without width that no property tells. -/
def widthlessRanges : List (Nat × Nat) :=
  [(0x605, 0x605), (0x70f, 0x70f), (0x890, 0x891), (0x8e2, 0x8e2), (0x1160, 0x11ff),
   (0xa8fa, 0xa8fa), (0xd7b0, 0xd7c6), (0xd7cb, 0xd7fb)]

/-- The width of a character by itself. -/
def charWidth (c : Char) : Nat :=
  let point := c.toNat
  if point < 0x7f then 1
  else if point = 0x115f then 2
  else if point = 0x17d8 then 3
  else if Property.holds .defaultIgnorableCodePoint c || Property.holds .graphemeExtend c ||
      ClusterClass.inRanges widthlessRanges point then 0
  else if wideTable.contains point then 2
  else 1

/-- Whether a cluster is an emoji sequence: a flag, pictographs joined to each other, one with a
modifier, or one that asks for its coloured form. -/
def isEmojiSequence : List Char → Bool
  | first :: second :: rest =>
    (Property.holds .regionalIndicator first && Property.holds .regionalIndicator second) ||
      (Property.holds .emoji first && second.toNat = 0xfe0f) ||
      (Property.holds .emojiModifierBase first && Property.holds .emojiModifier second) ||
      (Property.holds .extendedPictographic first &&
        (second :: rest).any fun c => c.toNat = 0x200d)
  | _ => false

/-- The width of a cluster. -/
def clusterWidth (cluster : List Char) : Nat :=
  if isEmojiSequence cluster then 2
  else
    match cluster with
    | [first, second] =>
      if Property.holds .emojiPresentation first && second.toNat = 0xfe0e then 1
      else charWidth first + charWidth second
    | _ => (cluster.map charWidth).foldl (· + ·) 0

end TrackBrowser.Unicode
