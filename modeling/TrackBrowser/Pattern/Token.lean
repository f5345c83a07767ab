/-
Module: TrackBrowser.Pattern.Token
Purpose: The tokens of a regular expression and how they are cut off a text.
-/
import TrackBrowser.Pattern.Bracket
import TrackBrowser.Pattern.Expr
import TrackBrowser.Pattern.PropertyName
import TrackBrowser.Text.Digits

/-!
Every reader in this module takes a text and returns what it has read with the rest of the text.
In verbose mode blanks and comments between tokens, and between the characters of most escapes,
do not count.
-/

namespace TrackBrowser.Pattern

open TrackBrowser.Text (isBlank isDigit valueOf)

/-- What was read at the start of a text, with the rest of the text. -/
abbrev WithRest (α : Type) : Type :=
  α × List Char

/-- Expressions without parts, as they are written.  Conditions on word characters are read with
Unicode; the modes in force decide whether it stays on. -/
inductive Atom where
  | literal (written : Literal)
  | dot
  | lineStart
  | lineEnd
  | condition (wanted : Condition)
  | letterClass (kind : LetterClass) (negated : Bool)
  | property (wanted : CharProperty) (negated : Bool)
  deriving DecidableEq, Repr, Inhabited

/-- The tokens of an expression. -/
inductive Token where
  | openGroup (name : Option String) (changes : ModeChanges)
  | closeGroup
  | bar
  | setModes (changes : ModeChanges)
  | repetition (least : Nat) (most : Option Nat)
  | atom (written : Atom)
  | bracket (tree : Bracket)
  deriving DecidableEq, Repr, Inhabited

/-! ### Blanks and comments -/

/-- Drops blanks and comments; a comment starts with `#` and ends with its line. -/
def skipBlanks : (inComment : Bool) → List Char → List Char
  | _, [] => []
  | true, c :: rest => skipBlanks (c != '\n') rest
  | false, c :: rest =>
    if isBlank c then skipBlanks false rest
    else if c == '#' then skipBlanks true rest
    else c :: rest

/-- Drops blanks and comments in verbose mode. -/
def spaced (verbose : Bool) (text : List Char) : List Char :=
  if verbose then skipBlanks false text else text

/-- Takes characters as long as they are wanted, and drops blanks and comments between them in
verbose mode. -/
def takeSpaced (verbose : Bool) (wanted : Char → Bool) :
    (inComment : Bool) → List Char → List Char × List Char
  | _, [] => ([], [])
  | true, c :: rest => takeSpaced verbose wanted (c != '\n') rest
  | false, c :: rest =>
    if verbose && isBlank c then takeSpaced verbose wanted false rest
    else if verbose && c == '#' then takeSpaced verbose wanted true rest
    else if wanted c then
      let (taken, rest) := takeSpaced verbose wanted false rest
      (c :: taken, rest)
    else ([], c :: rest)

/-- The character after the next one, where verbose mode looks past blanks.  A comment sign is
passed over like a blank, but only once. -/
def peekSpaced (verbose : Bool) (rest : List Char) : Option Char :=
  if verbose then
    match rest.dropWhile isBlank with
    | [] => rest.head?
    | '#' :: more =>
      match more.dropWhile isBlank with
      | [] => rest.head?
      | c :: _ => some c
    | c :: _ => some c
  else rest.head?

/-! ### Escapes -/

/-- The value of a hexadecimal digit in either case. -/
def hexValue? (c : Char) : Option Nat :=
  Unicode.hexDigit? c.toLower

/-- The character with a given code, if there is one. -/
def charOfCode (code : Nat) : Except PatternError Char :=
  if code.isValidChar then .ok (Char.ofNat code) else .error .invalidEscape

/-- Reads exactly `count` hexadecimal digits. -/
def fixedHex (verbose : Bool) :
    (inComment : Bool) → (count value : Nat) → List Char → Except PatternError (WithRest Nat)
  | _, 0, value, rest => .ok (value, rest)
  | _, _ + 1, _, [] => .error .invalidEscape
  | true, count + 1, value, c :: rest => fixedHex verbose (c != '\n') (count + 1) value rest
  | false, count + 1, value, c :: rest =>
    if verbose && isBlank c then fixedHex verbose false (count + 1) value rest
    else if verbose && c == '#' then fixedHex verbose true (count + 1) value rest
    else
      match hexValue? c with
      | some digit => fixedHex verbose false count (16 * value + digit) rest
      | none => .error .invalidEscape

/-- Reads the code of a character: in braces any number of hexadecimal digits, else exactly `count`
of them. -/
def hexEscape (verbose : Bool) (count : Nat) (text : List Char) :
    Except PatternError (WithRest Atom) :=
  match spaced verbose text with
  | '{' :: rest =>
    match takeSpaced verbose (· != '}') false rest with
    | (digits, '}' :: rest) =>
      match digits.mapM hexValue? with
      | none => .error .invalidEscape
      | some [] => .error .invalidEscape
      | some values => do
        let c ← charOfCode (values.foldl (fun total digit => 16 * total + digit) 0)
        return (.literal ⟨c, false⟩, rest)
    | (_, _) => .error .invalidEscape
  | text => do
    let (value, rest) ← fixedHex verbose false count 0 text
    let c ← charOfCode value
    return (.literal ⟨c, count == 2⟩, rest)

/-- Reads the name of a property: one character, or any text in braces. -/
def propertyEscape (verbose negated : Bool) (text : List Char) :
    Except PatternError (WithRest Atom) :=
  match spaced verbose text with
  | [] => .error .invalidEscape
  | '{' :: rest =>
    match takeSpaced verbose (· != '}') false rest with
    | (name, '}' :: rest) =>
      match PropertyName.ofBraces? name with
      | some wanted => .ok (.property wanted negated, rest)
      | none => .error .unknownProperty
    | (_, _) => .error .invalidEscape
  | c :: rest =>
    match PropertyName.lookup? [c] with
    | some wanted => .ok (.property wanted negated, rest)
    | none => .error .unknownProperty

/-- The class of a letter after a backslash; capitals negate it. -/
def letterClass? (letter : Char) : Option (LetterClass × Bool) :=
  if letter == 'd' then some (.digit, false)
  else if letter == 's' then some (.space, false)
  else if letter == 'w' then some (.word, false)
  else if letter == 'D' then some (.digit, true)
  else if letter == 'S' then some (.space, true)
  else if letter == 'W' then some (.word, true)
  else none

/-- The control character that a letter after a backslash stands for. -/
def controlEscape? (letter : Char) : Option Char :=
  if letter == 'a' then some (Char.ofNat 7)
  else if letter == 'f' then some (Char.ofNat 12)
  else if letter == 't' then some '\t'
  else if letter == 'n' then some '\n'
  else if letter == 'r' then some '\r'
  else if letter == 'v' then some (Char.ofNat 11)
  else none

/-- Reads what follows `\b`: the name of a special edge in braces, or nothing.  Braces that do not
start with a letter or hyphen are left for a repetition. -/
def boundaryEscape (verbose : Bool) (text : List Char) : Except PatternError (WithRest Atom) :=
  let isNameChar (c : Char) : Bool := c.isAlpha || c == '-'
  match text with
  | '{' :: rest =>
    match spaced verbose rest with
    | [] => .error .invalidEscape
    | c :: _ =>
      if isNameChar c then
        match takeSpaced verbose isNameChar false rest with
        | (name, '}' :: rest) =>
          let name := String.ofList name
          if name == "start" then .ok (.condition (.wordStart true), rest)
          else if name == "end" then .ok (.condition (.wordEnd true), rest)
          else if name == "start-half" then .ok (.condition (.wordStartHalf true), rest)
          else if name == "end-half" then .ok (.condition (.wordEndHalf true), rest)
          else .error .invalidEscape
        | (_, _) => .error .invalidEscape
      else .ok (.condition (.boundary true), text)
  | _ => .ok (.condition (.boundary true), text)

/-- Reads what follows a backslash.  Every ASCII character may be escaped that is neither a letter
nor a digit, but for the angle brackets, which are the edges of a word. -/
def escape (verbose : Bool) (text : List Char) : Except PatternError (WithRest Atom) :=
  match text with
  | [] => .error .invalidEscape
  | c :: rest =>
    if isDigit c then .error .backreference
    else if c == 'x' then hexEscape verbose 2 rest
    else if c == 'u' then hexEscape verbose 4 rest
    else if c == 'U' then hexEscape verbose 8 rest
    else if c == 'p' || c == 'P' then propertyEscape verbose (c == 'P') rest
    else
      match letterClass? c with
      | some (kind, negated) => .ok (.letterClass kind negated, rest)
      | none =>
        match controlEscape? c with
        | some control => .ok (.literal ⟨control, false⟩, rest)
        | none =>
          if c == 'A' then .ok (.condition .textStart, rest)
          else if c == 'z' then .ok (.condition .textEnd, rest)
          else if c == 'b' then boundaryEscape verbose rest
          else if c == 'B' then .ok (.condition (.noBoundary true), rest)
          else if c == '<' then .ok (.condition (.wordStart true), rest)
          else if c == '>' then .ok (.condition (.wordEnd true), rest)
          else if c.toNat < 0x80 && !c.isAlpha then .ok (.literal ⟨c, false⟩, rest)
          else .error .invalidEscape

/-! ### Repetitions and groups -/

/-- The largest number that may stand in a repetition. -/
def largestCount : Nat :=
  0xffffffff

/-- Reads a number with the blanks around it; `none` when there is no digit. -/
def count? (verbose : Bool) (text : List Char) : Except PatternError (WithRest (Option Nat)) :=
  let (digits, rest) := takeSpaced verbose isDigit false (text.dropWhile isBlank)
  let rest := rest.dropWhile isBlank
  if digits.isEmpty then .ok (none, rest)
  else if valueOf digits ≤ largestCount then .ok (some (valueOf digits), rest)
  else .error .invalidRepetition

/-- Drops the question mark that makes a repetition reluctant, which does not change what the
expression matches. -/
def dropReluctance (text : List Char) : List Char :=
  match text with
  | '?' :: rest => rest
  | _ => text

/-- Reads what follows the brace of a counted repetition. -/
def countedRepetition (verbose : Bool) (text : List Char) :
    Except PatternError (WithRest Token) := do
  let (least, rest) ← count? verbose (spaced verbose text)
  let (most, rest) ←
    match rest with
    | ',' :: rest =>
      match spaced verbose rest with
      | '}' :: rest => pure (none, '}' :: rest)
      | rest => do
        let (most, rest) ← count? verbose rest
        if most.isNone then throw .invalidRepetition
        pure (most, rest)
    | rest => pure (least, rest)
  match least, rest with
  | some least, '}' :: rest =>
    if most.all (least ≤ ·) then
      return (.repetition least most, dropReluctance (spaced verbose rest))
    else throw .invalidRepetition
  | _, _ => throw .invalidRepetition

/-- Whether a character may stand in the name of a group. -/
def isNameChar (isFirst : Bool) (c : Char) : Bool :=
  let isLetter := if c.toNat < 0x80 then c.isAlpha else Unicode.Property.holds .alphabetic c
  if isFirst then c == '_' || isLetter
  else
    c == '_' || c == '.' || c == '[' || c == ']' || isLetter ||
      (if c.toNat < 0x80 then c.isDigit
       else (Unicode.Category.members "N").contains (Unicode.category c))

/-- Reads the name of a group and the angle bracket after it. -/
def groupName (text : List Char) : Except PatternError (WithRest Token) :=
  let name := text.takeWhile (· != '>')
  match name, text.dropWhile (· != '>') with
  | first :: others, _ :: rest =>
    if isNameChar true first && others.all (isNameChar false) then
      .ok (.openGroup (some (String.ofList name)) [], rest)
    else .error .invalidGroupName
  | _, _ => .error .invalidGroupName

/-- Reads flags up to the colon or parenthesis that ends them.  Each flag may be named once, and a
single hyphen may stand before some of them. -/
def flags : (changes : ModeChanges) → (negated dangling : Bool) → List Char →
    Except PatternError (WithRest Token)
  | _, _, _, [] => .error .invalidFlags
  | changes, negated, dangling, c :: rest =>
    if c == ':' then
      if dangling then .error .invalidFlags else .ok (.openGroup none changes, rest)
    else if c == ')' then
      if dangling then .error .invalidFlags
      else if changes.isEmpty then .error .nothingToRepeat
      else .ok (.setModes changes, rest)
    else if c == '-' then
      if negated then .error .invalidFlags else flags changes true true rest
    else
      match Mode.ofLetter? c with
      | none => .error .invalidFlags
      | some mode =>
        if changes.any fun change => change.1 == mode then .error .invalidFlags
        else flags (changes ++ [(mode, !negated)]) negated false rest

/-- Reads what follows an opening parenthesis. -/
def group (verbose : Bool) (text : List Char) : Except PatternError (WithRest Token) :=
  match spaced verbose text with
  | '?' :: '=' :: _ => .error .lookAround
  | '?' :: '!' :: _ => .error .lookAround
  | '?' :: '<' :: '=' :: _ => .error .lookAround
  | '?' :: '<' :: '!' :: _ => .error .lookAround
  | '?' :: 'P' :: '<' :: rest => groupName rest
  | '?' :: '<' :: rest => groupName rest
  | '?' :: rest => flags [] false false rest
  | rest => .ok (.openGroup none [], rest)

/-! ### Bracketed classes -/

/-- Reads the name of an ASCII class after its bracket, up to the closing colon and bracket. -/
def asciiClass? (text : List Char) : Option (Bracket × List Char) :=
  match text with
  | ':' :: rest =>
    let (negated, rest) :=
      match rest with
      | '^' :: rest => (true, rest)
      | rest => (false, rest)
    match rest.dropWhile (· != ':') with
    | ':' :: ']' :: after =>
      (AsciiClass.ofName? (String.ofList (rest.takeWhile (· != ':')))).map fun kind =>
        (.asciiClass kind negated, after)
    | _ => none
  | _ => none

/-- Reads a single member of a class, or an end of a range. -/
def classAtom (verbose : Bool) (text : List Char) : Except PatternError (WithRest Atom) :=
  match text with
  | [] => .error .unclosedClass
  | '\\' :: rest => escape verbose rest
  | c :: rest => .ok (.literal ⟨c, false⟩, rest)

/-- The member of a class that an atom denotes. -/
def Atom.toMember : Atom → Except PatternError Bracket
  | .literal written => .ok (.literal written)
  | .letterClass kind negated => .ok (.letterClass kind negated)
  | .property wanted negated => .ok (.property wanted negated)
  | _ => .error .invalidClassItem

/-- Reads a member of a class or a range of members.  A hyphen before the closing bracket or before
another hyphen does not make a range. -/
def classMember (verbose : Bool) (text : List Char) : Except PatternError (WithRest Bracket) := do
  let (first, rest) ← classAtom verbose text
  match spaced verbose rest with
  | [] => throw .unclosedClass
  | c :: rest =>
    let next := peekSpaced verbose rest
    if c != '-' || next == some ']' || next == some '-' then
      return (← first.toMember, c :: rest)
    else
      let (last, rest) ← classAtom verbose (spaced verbose rest)
      match first, last with
      | .literal first, .literal last =>
        if first.char ≤ last.char then return (.range first last, rest)
        else throw .invalidClassRange
      | _, _ => throw .invalidClassRange

/-- A class that is being read: whether it is negated, the operation that waits for its right
operand, and the members read since, the last one first. -/
structure OpenClass where
  negated : Bool
  pending : Option (SetOperation × Bracket)
  members : List Bracket
  deriving Inhabited

namespace OpenClass

/-- Adds a member. -/
def add (opened : OpenClass) (member : Bracket) : OpenClass :=
  { opened with members := member :: opened.members }

/-- What has been read so far. -/
def content (opened : OpenClass) : Bracket :=
  let operand := Bracket.ofMembers opened.members.reverse
  match opened.pending with
  | none => operand
  | some (operation, left) => .combination operation left operand

/-- Makes what has been read the left operand of an operation. -/
def operate (opened : OpenClass) (operation : SetOperation) : OpenClass :=
  { opened with pending := some (operation, opened.content), members := [] }

end OpenClass

/-- Reads what follows an opening bracket: a sign of negation, hyphens, and a closing bracket if it
is the first member. -/
def openClass (verbose : Bool) (text : List Char) : Except PatternError (WithRest OpenClass) :=
  let text := spaced verbose text
  let (negated, text) :=
    match text with
    | '^' :: rest => (true, spaced verbose rest)
    | text => (false, text)
  let (hyphens, text) := takeSpaced verbose (· == '-') false text
  let members : List Bracket := hyphens.map fun c => .literal ⟨c, false⟩
  match members, text with
  | _, [] => .error .unclosedClass
  | [], ']' :: rest => .ok (⟨negated, none, [.literal ⟨']', false⟩]⟩, spaced verbose rest)
  | members, text => .ok (⟨negated, none, members⟩, text)

/-- Reads the rest of a class, given the classes around it, the innermost first. -/
def classRest (verbose : Bool) :
    (fuel : Nat) → (current : OpenClass) → (outer : List OpenClass) → List Char →
      Except PatternError (WithRest Bracket)
  | 0, _, _, _ => .error .unclosedClass
  | fuel + 1, current, outer, text =>
    match spaced verbose text with
    | [] => .error .unclosedClass
    | '[' :: rest =>
      match asciiClass? rest with
      | some (member, rest) => classRest verbose fuel (current.add member) outer rest
      | none => do
        let (inner, rest) ← openClass verbose rest
        classRest verbose fuel inner (current :: outer) rest
    | ']' :: rest =>
      let closed := Bracket.bracketed current.negated current.content
      match outer with
      | [] => .ok (closed, rest)
      | enclosing :: outer => classRest verbose fuel (enclosing.add closed) outer rest
    | '&' :: '&' :: rest => classRest verbose fuel (current.operate .intersection) outer rest
    | '-' :: '-' :: rest => classRest verbose fuel (current.operate .difference) outer rest
    | '~' :: '~' :: rest =>
      classRest verbose fuel (current.operate .symmetricDifference) outer rest
    | text => do
      let (member, rest) ← classMember verbose text
      classRest verbose fuel (current.add member) outer rest

/-- Reads a class after its opening bracket. -/
def bracketClass (verbose : Bool) (text : List Char) : Except PatternError (WithRest Bracket) := do
  let (opened, rest) ← openClass verbose text
  classRest verbose (rest.length + 1) opened [] rest

/-! ### Tokens -/

/-- Reads the token that a text starts with. -/
def token (verbose : Bool) (text : List Char) : Except PatternError (WithRest Token) :=
  match text with
  | [] => .error .unclosedGroup
  | c :: rest =>
    if c == '(' then group verbose rest
    else if c == ')' then .ok (.closeGroup, rest)
    else if c == '|' then .ok (.bar, rest)
    else if c == '[' then do
      let (tree, rest) ← bracketClass verbose rest
      return (.bracket tree, rest)
    else if c == '?' then .ok (.repetition 0 (some 1), dropReluctance rest)
    else if c == '*' then .ok (.repetition 0 none, dropReluctance rest)
    else if c == '+' then .ok (.repetition 1 none, dropReluctance rest)
    else if c == '{' then countedRepetition verbose rest
    else if c == '\\' then do
      let (atom, rest) ← escape verbose rest
      return (.atom atom, rest)
    else if c == '.' then .ok (.atom .dot, rest)
    else if c == '^' then .ok (.atom .lineStart, rest)
    else if c == '$' then .ok (.atom .lineEnd, rest)
    else .ok (.atom (.literal ⟨c, false⟩), rest)

end TrackBrowser.Pattern
