/-
Module: TrackBrowser.Matching
Purpose: Testing tracks against a pattern.
-/
import TrackBrowser.Pattern.Size
import TrackBrowser.Track.Basic
import TrackBrowser.Unicode.Lowercase

/-!
A `Matcher` is a pattern made ready for many tracks.  The fields that a mask selects are tested one
by one, and the track matches when any of them passes.  Negation turns the test of each field
around, before the results are joined.  An empty pattern passes every field.

Which expressions are too large is a parameter of `compileWith` and `checkWith`; `compile` and
`check` go by an estimate.
-/

namespace TrackBrowser

/-- How a pattern is compared, and in which direction a list is searched for it. -/
structure MatchOptions where
  negate : Bool := false
  exact : Bool := false
  regex : Bool := false
  reverse : Bool := false
  deriving DecidableEq, Repr, Inhabited

namespace MatchOptions

/-- The options as a number with one bit for each. -/
def bits (options : MatchOptions) : Nat :=
  options.negate.toNat + 2 * options.exact.toNat + 4 * options.regex.toNat +
    8 * options.reverse.toNat

end MatchOptions

/-- A text with each character in lower case by itself. -/
def foldText (text : String) : List Char :=
  text.toList.flatMap Unicode.lowerChar

/-- Whether a sequence of characters occurs somewhere in another. -/
def occursIn (needle : List Char) : List Char → Bool
  | [] => needle.isEmpty
  | c :: rest => needle.isPrefixOf (c :: rest) || occursIn needle rest

/-- What a pattern is compared as: folded text, or an expression, if it is one. -/
inductive Needle where
  | text (folded : List Char)
  | regex (expr : Option Pattern.Expr)
  deriving DecidableEq, Repr, Inhabited

/-- Reads a pattern as an expression whose automaton fits; an exact one has to match the whole
text. -/
def readRegex (fits : List Char → Bool) (pattern : String) (exact : Bool) :
    Except Pattern.PatternError Pattern.Expr :=
  Pattern.readWith fits (if exact then Pattern.anchored pattern.toList else pattern.toList)

/-- A pattern ready to be tested. -/
structure Matcher where
  needle : Needle
  options : MatchOptions
  isEmpty : Bool
  deriving DecidableEq, Repr, Inhabited

namespace Matcher

/-- Makes a pattern ready. -/
def compileWith (fits : List Char → Bool) (pattern : String) (options : MatchOptions) : Matcher :=
  { needle :=
      if options.regex then .regex (readRegex fits pattern options.exact).toOption
      else .text (foldText pattern)
    options := options
    isEmpty := pattern.isEmpty }

/-- Makes a pattern ready, with the estimate of its size. -/
def compile (pattern : String) (options : MatchOptions) : Matcher :=
  compileWith Pattern.seemsToFit pattern options

/-- Refuses a pattern that is to be an expression and is none. -/
def checkWith (fits : List Char → Bool) (pattern : String) (options : MatchOptions) :
    Except Pattern.PatternError Unit :=
  if options.regex then (readRegex fits pattern options.exact).map fun _ => () else .ok ()

/-- Refuses a pattern, with the estimate of its size. -/
def check (pattern : String) (options : MatchOptions) : Except Pattern.PatternError Unit :=
  checkWith Pattern.seemsToFit pattern options

/-- Whether a text passes, negation aside. -/
def passes (matcher : Matcher) (value : String) : Bool :=
  if matcher.isEmpty then true
  else
    match matcher.needle with
    | .text needle =>
      if matcher.options.exact then foldText value == needle
      else occursIn needle (foldText value)
    | .regex (some expr) => expr.matchesIn value.toList
    | .regex none => false

/-- Whether any field in a mask of a track passes.  A pattern that is no expression matches nothing,
negated or not. -/
def accepts (matcher : Matcher) (track : Track) (mask : FieldMask) : Bool :=
  match matcher.needle with
  | .regex none => false
  | _ =>
    (Field.all.filter mask.contains).any fun field =>
      matcher.passes (track.text field) != matcher.options.negate

end Matcher

/-- Whether a track matches a pattern on any field in a mask. -/
def Track.matchesPatternWith (fits : List Char → Bool) (track : Track) (pattern : String)
    (mask : FieldMask) (options : MatchOptions) : Bool :=
  (Matcher.compileWith fits pattern options).accepts track mask

/-- Whether a track matches a pattern on any field in a mask, with the estimate of its size. -/
def Track.matchesPattern (track : Track) (pattern : String) (mask : FieldMask)
    (options : MatchOptions) : Bool :=
  (Matcher.compile pattern options).accepts track mask

end TrackBrowser
