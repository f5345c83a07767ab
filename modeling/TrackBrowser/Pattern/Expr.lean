/-
Module: TrackBrowser.Pattern.Expr
Purpose: Regular expressions and which parts of a text they match.
-/
import TrackBrowser.Pattern.CharSet

/-!
An expression is matched against a text from a set of starting places and yields the set of places
where a match can end.  A set of places is a number whose bit `p` says that place `p` is in the
set; place `p` lies in front of character `p`.  Matching is done in two steps.  `Expr.on`
specialises an expression to a text by finding, once and for all, the places where each single
character and each condition fits.  `Places.ends` then runs the specialised expression, and a
repetition is a closure that adds places until none is new.
-/

namespace TrackBrowser.Pattern

/-- Conditions on a place between two characters. -/
inductive Condition where
  | textStart
  | textEnd
  | lineStart
  | lineEnd
  | lineStartCrlf
  | lineEndCrlf
  | boundary (unicode : Bool)
  | noBoundary (unicode : Bool)
  | wordStart (unicode : Bool)
  | wordEnd (unicode : Bool)
  | wordStartHalf (unicode : Bool)
  | wordEndHalf (unicode : Bool)
  deriving DecidableEq, Repr, Inhabited

namespace Condition

/-- Whether there is a word character on one side of a place. -/
def isWord (unicode : Bool) : Option Char → Bool
  | none => false
  | some c => if unicode then LetterClass.word.holds c else AsciiClass.word.holds c

/-- Whether a condition holds between the two neighbours of a place. -/
def holds : Condition → (before after : Option Char) → Bool
  | .textStart, before, _ => before.isNone
  | .textEnd, _, after => after.isNone
  | .lineStart, before, _ => before.isNone || before == some '\n'
  | .lineEnd, _, after => after.isNone || after == some '\n'
  | .lineStartCrlf, before, after =>
    before.isNone || before == some '\n' || (before == some '\r' && after != some '\n')
  | .lineEndCrlf, before, after =>
    after.isNone || after == some '\r' || (after == some '\n' && before != some '\r')
  | .boundary unicode, before, after => isWord unicode before != isWord unicode after
  | .noBoundary unicode, before, after => isWord unicode before == isWord unicode after
  | .wordStart unicode, before, after => !isWord unicode before && isWord unicode after
  | .wordEnd unicode, before, after => isWord unicode before && !isWord unicode after
  | .wordStartHalf unicode, before, _ => !isWord unicode before
  | .wordEndHalf unicode, _, after => !isWord unicode after

/-- The condition with Unicode or ASCII word characters. -/
def withUnicode (unicode : Bool) : Condition → Condition
  | .boundary _ => .boundary unicode
  | .noBoundary _ => .noBoundary unicode
  | .wordStart _ => .wordStart unicode
  | .wordEnd _ => .wordEnd unicode
  | .wordStartHalf _ => .wordStartHalf unicode
  | .wordEndHalf _ => .wordEndHalf unicode
  | condition => condition

end Condition

/-- Regular expressions. -/
inductive Expr where
  | empty
  | char (set : CharSet)
  | condition (wanted : Condition)
  | sequence (first second : Expr)
  | choice (left right : Expr)
  | repetition (body : Expr) (least : Nat) (most : Option Nat)
  deriving DecidableEq, Repr, Inhabited

/-- An expression specialised to a text: the places in front of a fitting character and the places
where a condition holds are known. -/
inductive Places where
  | all
  | step (places : Nat)
  | guard (places : Nat)
  | sequence (first second : Places)
  | choice (left right : Places)
  | repetition (body : Places) (least : Nat) (most : Option Nat)
  deriving DecidableEq, Repr, Inhabited

/-- The set of the places `base`, `base + 1`, … for which the list holds `true`. -/
def placeSet (flags : List Bool) : Nat :=
  flags.foldr (fun flag places => 2 * places + flag.toNat) 0

/-- Whether a condition holds at each place of a text that follows `before`. -/
def Condition.flags (condition : Condition) : (before : Option Char) → List Char → List Bool
  | before, [] => [condition.holds before none]
  | before, c :: rest => condition.holds before (some c) :: condition.flags (some c) rest

namespace Expr

/-- Specialises an expression to a text. -/
def on (text : List Char) : Expr → Places
  | .empty => .all
  | .char set => .step (placeSet (text.map set.contains))
  | .condition wanted => .guard (placeSet (wanted.flags none text))
  | .sequence first second => .sequence (first.on text) (second.on text)
  | .choice left right => .choice (left.on text) (right.on text)
  | .repetition body least most => .repetition (body.on text) least most

end Expr

namespace Places

/-- Applies a function a number of times, but not to the empty set, which stays empty. -/
def repeatStep (step : Nat → Nat) : (count : Nat) → (places : Nat) → Nat
  | 0, places => places
  | count + 1, places => if places = 0 then 0 else repeatStep step count (step places)

/-- Adds what a function reaches in at most `count` applications. -/
def addReached (step : Nat → Nat) : (count : Nat) → (places : Nat) → Nat
  | 0, places => places
  | count + 1, places =>
    let next := places ||| step places
    if next = places then places else addReached step count next

/-- The places where a match can end that starts at one of `starts`.  `length` is the length of the
text; it bounds how often a repetition can reach a new place. -/
def ends (length : Nat) : Places → (starts : Nat) → Nat
  | .all, starts => starts
  | .step places, starts => (starts &&& places) <<< 1
  | .guard places, starts => starts &&& places
  | .sequence first second, starts => second.ends length (first.ends length starts)
  | .choice left right, starts => left.ends length starts ||| right.ends length starts
  | .repetition body least most, starts =>
    let first := repeatStep (body.ends length) least starts
    match most with
    | none => addReached (body.ends length) (length + 1) first
    | some most => addReached (body.ends length) (most - least) first

end Places

namespace Expr

/-- Whether an expression matches somewhere in a text. -/
def matchesIn (expr : Expr) (text : List Char) : Bool :=
  (expr.on text).ends text.length (Nat.pow 2 (text.length + 1) - 1) != 0

/-- Whether an expression can match the empty text only. -/
def onlyEmpty : Expr → Bool
  | .empty => true
  | .char _ => false
  | .condition _ => true
  | .sequence first second => first.onlyEmpty && second.onlyEmpty
  | .choice left right => left.onlyEmpty && right.onlyEmpty
  | .repetition body _ most => body.onlyEmpty || most == some 0

/-- A repetition.  More than one match of an expression that takes no character adds nothing, and a
repetition that allows none is the empty expression. -/
def repeated (body : Expr) (least : Nat) (most : Option Nat) : Expr :=
  let least := if body.onlyEmpty then min least 1 else least
  let most := if body.onlyEmpty then some (min (most.getD 1) 1) else most
  if least = 0 ∧ most = some 0 then .empty
  else if least = 1 ∧ most = some 1 then body
  else .repetition body least most

end Expr

end TrackBrowser.Pattern
