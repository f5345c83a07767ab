/-
Module: TrackBrowser.Pattern.CharSet
Purpose: Sets of characters as expressions, with a decidable membership.
-/
import TrackBrowser.Text.Blank
import TrackBrowser.Unicode.Age
import TrackBrowser.Unicode.BreakClass
import TrackBrowser.Unicode.CaseOrbit
import TrackBrowser.Unicode.Cluster
import TrackBrowser.Unicode.Script

/-!
A set of characters is kept as the expression that describes it.  Membership is decided by
recursion on the expression, so closing a set under case variants costs nothing until a character
is tested: a character is in the closure when one of its own variants is in the set.
-/

namespace TrackBrowser.Pattern

open TrackBrowser.Unicode

/-- The three classes that have a letter of their own: `\d`, `\s` and `\w`. -/
inductive LetterClass where
  | digit
  | space
  | word
  deriving DecidableEq, Repr, Inhabited

/-- The classes of ASCII characters that are named inside brackets, as in `[:alpha:]`. -/
inductive AsciiClass where
  | alnum
  | alpha
  | ascii
  | blank
  | cntrl
  | digit
  | graph
  | lower
  | print
  | punct
  | space
  | upper
  | word
  | xdigit
  deriving DecidableEq, Repr, Inhabited

namespace AsciiClass

/-- The name of a class between the colons. -/
def name : AsciiClass → String
  | .alnum => "alnum"
  | .alpha => "alpha"
  | .ascii => "ascii"
  | .blank => "blank"
  | .cntrl => "cntrl"
  | .digit => "digit"
  | .graph => "graph"
  | .lower => "lower"
  | .print => "print"
  | .punct => "punct"
  | .space => "space"
  | .upper => "upper"
  | .word => "word"
  | .xdigit => "xdigit"

/-- Every class. -/
def all : List AsciiClass :=
  [.alnum, .alpha, .ascii, .blank, .cntrl, .digit, .graph, .lower, .print, .punct, .space,
   .upper, .word, .xdigit]

/-- The class with a given name. -/
def ofName? (text : String) : Option AsciiClass :=
  all.find? fun kind => kind.name == text

/-- Whether a character belongs to a class. -/
def holds : AsciiClass → Char → Bool
  | .alnum, c => c.isAlphanum
  | .alpha, c => c.isAlpha
  | .ascii, c => c.toNat < 0x80
  | .blank, c => c == ' ' || c == '\t'
  | .cntrl, c => c.toNat < 0x20 || c.toNat == 0x7f
  | .digit, c => c.isDigit
  | .graph, c => '!' ≤ c && c ≤ '~'
  | .lower, c => c.isLower
  | .print, c => ' ' ≤ c && c ≤ '~'
  | .punct, c => '!' ≤ c && c ≤ '~' && !c.isAlphanum
  | .space, c => c == ' ' || (9 ≤ c.toNat && c.toNat ≤ 13)
  | .upper, c => c.isUpper
  | .word, c => c.isAlphanum || c == '_'
  | .xdigit, c => c.isDigit || ('a' ≤ c && c ≤ 'f') || ('A' ≤ c && c ≤ 'F')

end AsciiClass

namespace LetterClass

/-- The ASCII characters of a class. -/
def asciiClass : LetterClass → AsciiClass
  | .digit => .digit
  | .space => .space
  | .word => .word

/-- Whether a character outside ASCII belongs to a class.  A word is made of letters, marks,
decimal digits, connecting punctuation and the two joiners. -/
def holdsBeyondAscii : LetterClass → Char → Bool
  | .digit, c => category c == .decimalNumber
  | .space, c => Text.isBlank c
  | .word, c =>
    Property.holds .alphabetic c || Property.holds .joinControl c ||
      [Category.nonspacingMark, .spacingMark, .enclosingMark, .decimalNumber,
        .connectorPunctuation].contains (category c)

/-- Whether a character belongs to a class. -/
def holds (kind : LetterClass) (c : Char) : Bool :=
  if c.toNat < 0x80 then kind.asciiClass.holds c else kind.holdsBeyondAscii c

end LetterClass

/-- What a property expression `\p` can ask of a character. -/
inductive CharProperty where
  | any
  | ascii
  | assigned
  | categories (members : List Category)
  | binary (wanted : Property)
  | script (wanted : Script)
  | scriptExtension (wanted : Script)
  | age (versions : List String)
  | clusterClass (wanted : ClusterClass)
  | breakClass (kind : BreakKind) (code : String)
  deriving DecidableEq, Repr, Inhabited

/-- Whether a character has a property. -/
def CharProperty.holds : CharProperty → Char → Bool
  | .any, _ => true
  | .ascii, c => c.toNat < 0x80
  | .assigned, c => category c != .unassigned
  | .categories members, c => members.contains (category c)
  | .binary wanted, c => wanted.holds c
  | .script wanted, c => Script.of c == wanted
  | .scriptExtension wanted, c => (Script.extensions c).contains wanted
  | .age versions, c => versions.contains (Age.of c)
  | .clusterClass wanted, c => ClusterClass.of c == wanted
  | .breakClass kind code, c => kind.classOf c == code

/-- Expressions for sets of characters. -/
inductive CharSet where
  | empty
  | range (first last : Char)
  | letterClass (kind : LetterClass)
  | asciiClass (kind : AsciiClass)
  | property (wanted : CharProperty)
  | caseClosure (set : CharSet)
  | asciiCaseClosure (set : CharSet)
  | complement (set : CharSet)
  | union (left right : CharSet)
  | intersection (left right : CharSet)
  | difference (left right : CharSet)
  | symmetricDifference (left right : CharSet)
  deriving DecidableEq, Repr, Inhabited

namespace CharSet

/-- The set of one character. -/
def single (c : Char) : CharSet :=
  .range c c

/-- The case variants of a character among the ASCII letters. -/
def asciiOrbit (c : Char) : List Char :=
  if c.isAlpha then [c.toLower, c.toUpper] else [c]

/-- Membership. -/
def contains : CharSet → Char → Bool
  | .empty, _ => false
  | .range first last, c => first ≤ c && c ≤ last
  | .letterClass kind, c => kind.holds c
  | .asciiClass kind, c => kind.holds c
  | .property wanted, c => wanted.holds c
  | .caseClosure set, c => (caseOrbit c).any set.contains
  | .asciiCaseClosure set, c => (asciiOrbit c).any set.contains
  | .complement set, c => !set.contains c
  | .union left right, c => left.contains c || right.contains c
  | .intersection left right, c => left.contains c && right.contains c
  | .difference left right, c => left.contains c && !right.contains c
  | .symmetricDifference left right, c => left.contains c != right.contains c

/-- The set of the characters in a list. -/
def ofList : List Char → CharSet
  | [] => .empty
  | [c] => .single c
  | c :: rest => .union (.single c) (ofList rest)

/-- Whether a set of single bytes keeps to ASCII.  No set of bytes tells the bytes from `0x80` on
apart unless it names them, so all of them are tested. -/
def isAscii (set : CharSet) : Bool :=
  (List.range 0x80).all fun n => !set.contains (Char.ofNat (0x80 + n))

end CharSet

end TrackBrowser.Pattern
