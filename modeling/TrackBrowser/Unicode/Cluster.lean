/-
Module: TrackBrowser.Unicode.Cluster
Purpose: Cutting texts into what a reader takes for single characters.
-/
import TrackBrowser.Unicode.Property

/-!
A cluster is a base character with everything that attaches to it: marks, the parts of a Hangul
syllable, the members of an emoji sequence, the two letters of a flag.  Clusters are found from left
to right; whether there is a boundary before a character depends on the class of the character
before it and on a little memory of the cluster so far.
-/

namespace TrackBrowser.Unicode

/-- The classes of characters that the rules for boundaries tell apart. -/
inductive ClusterClass where
  | carriageReturn
  | lineFeed
  | control
  | extend
  | joiner
  | regional
  | prepended
  | spacingMark
  | hangulLead
  | hangulVowel
  | hangulTail
  | hangulOpen
  | hangulClosed
  | pictograph
  | other
  deriving DecidableEq, Repr, Inhabited

namespace ClusterClass

/-- Whether a code point is in one of some ranges. -/
def inRanges (ranges : List (Nat × Nat)) (point : Nat) : Bool :=
  ranges.any fun (first, last) => first ≤ point && point ≤ last

/-- Characters that attach to the one after them. -/
def prependedRanges : List (Nat × Nat) :=
  [(0x600, 0x605), (0x6dd, 0x6dd), (0x70f, 0x70f), (0x890, 0x891), (0x8e2, 0x8e2),
   (0xd4e, 0xd4e), (0x110bd, 0x110bd), (0x110cd, 0x110cd), (0x111c2, 0x111c3),
   (0x113d1, 0x113d1), (0x1193f, 0x1193f), (0x11941, 0x11941), (0x11a3a, 0x11a3a),
   (0x11a84, 0x11a89), (0x11d46, 0x11d46), (0x11f02, 0x11f02)]

/-- Spacing marks that do not attach to the character before them. -/
def detachedMarks : List (Nat × Nat) :=
  [(0x102b, 0x102c), (0x1038, 0x1038), (0x1062, 0x1064), (0x1067, 0x106d), (0x1083, 0x1083),
   (0x1087, 0x108c), (0x108f, 0x108f), (0x109a, 0x109c), (0x1a61, 0x1a61), (0x1a63, 0x1a64),
   (0xaa7b, 0xaa7b), (0xaa7d, 0xaa7d), (0x11720, 0x11721)]

/-- Vowels of Hangul syllables, and vowels of another script that attach as these do. -/
def vowelRanges : List (Nat × Nat) :=
  [(0x1160, 0x11a7), (0x16d63, 0x16d63), (0x16d67, 0x16d6a), (0xd7b0, 0xd7c6)]

/-- The class of a character. -/
def of (c : Char) : ClusterClass :=
  let point := c.toNat
  if c == '\r' then .carriageReturn
  else if c == '\n' then .lineFeed
  else if point < 0x20 then .control
  else if point < 0x7f then .other
  else if point = 0x200d then .joiner
  else if Property.holds .graphemeExtend c || Property.holds .emojiModifier c then .extend
  else if Property.holds .regionalIndicator c then .regional
  else if inRanges prependedRanges point then .prepended
  else if inRanges [(0x1100, 0x115f), (0xa960, 0xa97c)] point then .hangulLead
  else if inRanges vowelRanges point then .hangulVowel
  else if inRanges [(0x11a8, 0x11ff), (0xd7cb, 0xd7fb)] point then .hangulTail
  else if inRanges [(0xac00, 0xd7a3)] point then
    if (point - 0xac00) % 28 = 0 then .hangulOpen else .hangulClosed
  else if Property.holds .extendedPictographic c then .pictograph
  else
    match category c with
    | .control | .format | .lineSeparator | .paragraphSeparator => .control
    | .unassigned => if Property.holds .defaultIgnorableCodePoint c then .control else .other
    | .spacingMark => if inRanges detachedMarks point then .other else .spacingMark
    | _ => if point = 0xe33 || point = 0xeb3 then .spacingMark else .other

/-- The classes that have names.  Pictographs and the characters that are left over share a class
without one. -/
def names : List (ClusterClass × List String) :=
  [(.carriageReturn, ["cr"]), (.lineFeed, ["lf"]), (.control, ["cn", "control"]),
   (.extend, ["ex", "extend"]), (.joiner, ["zwj"]), (.regional, ["ri", "regionalindicator"]),
   (.prepended, ["pp", "prepend"]), (.spacingMark, ["sm", "spacingmark"]), (.hangulLead, ["l"]),
   (.hangulVowel, ["v"]), (.hangulTail, ["t"]), (.hangulOpen, ["lv"]), (.hangulClosed, ["lvt"])]

/-- The class with a given name. -/
def ofName? (name : String) : Option ClusterClass :=
  (names.find? fun entry => entry.2.contains name).map (·.1)

end ClusterClass

/-- What is remembered of the cluster so far: the class of its last character, whether the number of
regional indicators at its end is odd, and whether it ends with a pictograph and its marks, or with
these and a joiner. -/
structure ClusterState where
  last : ClusterClass
  oddRegional : Bool
  pictograph : Bool
  joined : Bool
  deriving DecidableEq, Repr, Inhabited

namespace ClusterState

/-- The state after the next character. -/
def next (state : ClusterState) (kind : ClusterClass) : ClusterState :=
  { last := kind
    oddRegional := kind = .regional && !(state.last = .regional && state.oddRegional)
    pictograph := kind = .pictograph || (state.pictograph && kind = .extend)
    joined := state.pictograph && kind = .joiner }

/-- The state before the first character. -/
def initial : ClusterState :=
  ⟨.control, false, false, false⟩

/-- Whether a character of a class attaches to the cluster before it. -/
def attaches (state : ClusterState) (kind : ClusterClass) : Bool :=
  match state.last, kind with
  | .carriageReturn, .lineFeed => true
  | .carriageReturn, _ => false
  | .lineFeed, _ => false
  | .control, _ => false
  | _, .carriageReturn => false
  | _, .lineFeed => false
  | _, .control => false
  | _, .extend => true
  | _, .joiner => true
  | _, .spacingMark => true
  | .prepended, _ => true
  | .hangulLead, .hangulLead => true
  | .hangulLead, .hangulVowel => true
  | .hangulLead, .hangulOpen => true
  | .hangulLead, .hangulClosed => true
  | .hangulOpen, .hangulVowel => true
  | .hangulVowel, .hangulVowel => true
  | .hangulOpen, .hangulTail => true
  | .hangulVowel, .hangulTail => true
  | .hangulClosed, .hangulTail => true
  | .hangulTail, .hangulTail => true
  | .joiner, .pictograph => state.joined
  | .regional, .regional => state.oddRegional
  | _, _ => false

end ClusterState

/-- Cuts the rest of a text into clusters; `current` is the cluster being read, its last character
first. -/
def clustersFrom : (state : ClusterState) → (current : List Char) → List Char → List (List Char)
  | _, [], [] => []
  | _, current, [] => [current.reverse]
  | state, current, c :: rest =>
    let kind := ClusterClass.of c
    if current.isEmpty || state.attaches kind then
      clustersFrom (state.next kind) (c :: current) rest
    else current.reverse :: clustersFrom (state.next kind) [c] rest

/-- Cuts a text into clusters. -/
def clusters (text : List Char) : List (List Char) :=
  clustersFrom .initial [] text

end TrackBrowser.Unicode
