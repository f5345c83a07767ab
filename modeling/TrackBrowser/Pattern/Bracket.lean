/-
Module: TrackBrowser.Pattern.Bracket
Purpose: Bracketed classes as they are written and the sets they denote.
-/
import TrackBrowser.Pattern.CharSet
import TrackBrowser.Pattern.Error
import TrackBrowser.Pattern.Modes

/-!
The meaning of a class depends on the modes in force where it stands.  Without Unicode a class is
a set of bytes, and since texts are UTF-8 it has to keep to ASCII: this is checked wherever a class
is complemented.  Case variants are added before a class is complemented or combined.
-/

namespace TrackBrowser.Pattern

/-- A character as it is written.  `isByte` marks the escape with two hexadecimal digits, which is a
byte when Unicode is off. -/
structure Literal where
  char : Char
  isByte : Bool
  deriving DecidableEq, Repr, Inhabited

/-- The operations between two sets inside brackets. -/
inductive SetOperation where
  | intersection
  | difference
  | symmetricDifference
  deriving DecidableEq, Repr, Inhabited

/-- What is written between brackets. -/
inductive Bracket where
  | empty
  | literal (written : Literal)
  | range (first last : Literal)
  | asciiClass (kind : AsciiClass) (negated : Bool)
  | letterClass (kind : LetterClass) (negated : Bool)
  | property (wanted : CharProperty) (negated : Bool)
  | union (left right : Bracket)
  | combination (operation : SetOperation) (left right : Bracket)
  | bracketed (negated : Bool) (inner : Bracket)
  deriving DecidableEq, Repr, Inhabited

namespace CharSet

/-- Adds the case variants, if case is ignored. -/
def fold (modes : Modes) (set : CharSet) : CharSet :=
  if modes.ignoreCase then
    if modes.unicode then .caseClosure set else .asciiCaseClosure set
  else set

/-- Refuses a set of bytes that leaves ASCII. -/
def checked (modes : Modes) (set : CharSet) : Except PatternError CharSet :=
  if modes.unicode || set.isAscii then .ok set else .error .invalidUtf8

/-- Takes the complement, if asked to. -/
def negatedIf (negated : Bool) (set : CharSet) : CharSet :=
  if negated then .complement set else set

/-- The set that a set operation yields. -/
def combine : SetOperation → CharSet → CharSet → CharSet
  | .intersection, left, right => .intersection left right
  | .difference, left, right => .difference left right
  | .symmetricDifference, left, right => .symmetricDifference left right

end CharSet

/-- The set of a class that has a letter of its own. -/
def LetterClass.toSet (modes : Modes) (kind : LetterClass) (negated : Bool) :
    Except PatternError CharSet :=
  let set : CharSet := if modes.unicode then .letterClass kind else .asciiClass kind.asciiClass
  CharSet.checked modes (CharSet.negatedIf negated set)

/-- The set of the characters with a property. -/
def CharProperty.toSet (modes : Modes) (wanted : CharProperty) (negated : Bool) :
    Except PatternError CharSet :=
  if modes.unicode then .ok (CharSet.negatedIf negated (CharSet.fold modes (.property wanted)))
  else .error .unicodeNotAllowed

/-- The character that a literal inside brackets denotes. -/
def Literal.member (modes : Modes) (literal : Literal) : Except PatternError Char :=
  if modes.unicode || literal.char.toNat < 0x80 then .ok literal.char
  else if literal.isByte then .error .invalidUtf8
  else .error .unicodeNotAllowed

namespace Bracket

/-- The set that a bracketed class denotes. -/
def toSet (modes : Modes) : Bracket → Except PatternError CharSet
  | .empty => .ok .empty
  | .literal written => return .single (← written.member modes)
  | .range first last => return .range (← first.member modes) (← last.member modes)
  | .asciiClass kind negated =>
    CharSet.checked modes (CharSet.negatedIf negated (CharSet.fold modes (.asciiClass kind)))
  | .letterClass kind negated => kind.toSet modes negated
  | .property wanted negated => wanted.toSet modes negated
  | .union left right => return .union (← left.toSet modes) (← right.toSet modes)
  | .combination operation left right => do
    let left ← left.toSet modes
    let right ← right.toSet modes
    return CharSet.combine operation (left.fold modes) (right.fold modes)
  | .bracketed negated inner => do
    let set ← inner.toSet modes
    CharSet.checked modes (CharSet.negatedIf negated (set.fold modes))

/-- How deeply brackets, unions and operations are nested.  A union of several members counts once,
however many there are. -/
def depth : (insideUnion : Bool) → Bracket → Nat
  | insideUnion, .union left right =>
    (if insideUnion then 0 else 1) + max (left.depth true) (right.depth true)
  | _, .combination _ left right => 1 + max (left.depth false) (right.depth false)
  | _, .bracketed _ inner => 1 + inner.depth false
  | _, _ => 0

/-- The union of the members of a list. -/
def ofMembers : List Bracket → Bracket
  | [] => .empty
  | first :: rest => rest.foldl .union first

end Bracket

end TrackBrowser.Pattern
