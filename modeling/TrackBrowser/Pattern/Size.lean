/-
Module: TrackBrowser.Pattern.Size
Purpose: Refusing expressions whose automaton takes too much memory.
-/
import TrackBrowser.Pattern.Parser

/-!
Counted repetitions multiply the size of an automaton, so an expression is refused when its
automaton would take more than ten mebibytes.  How much it takes depends on how it is built, so
`readWith` has this as a parameter, the texts whose automaton fits, and what is proved about reading
expressions is proved for all of them.  To run the program there has to be one: `seemsToFit` goes by
an estimate.  This counts one copy of the body for every counted repetition; the size of a set of
characters is the rough size of the automaton that reads its members as UTF-8.
-/

namespace TrackBrowser.Pattern

/-- The rough size in bytes of an automaton that reads one character of a set. -/
def CharSet.size : CharSet → Nat
  | .empty => 0
  | .range _ last => if last.toNat < 0x80 then 8 else 120
  | .letterClass .digit => 3000
  | .letterClass .space => 600
  | .letterClass .word => 20000
  | .asciiClass _ => 32
  | .property .any => 600
  | .property .ascii => 8
  | .property _ => 15000
  | .caseClosure set => 2 * set.size
  | .asciiCaseClosure set => 2 * set.size
  | .complement set => 600 + set.size
  | .union left right => left.size + right.size
  | .intersection left right => min left.size right.size
  | .difference left right => left.size + right.size
  | .symmetricDifference left right => left.size + right.size

/-- The rough size in bytes of an automaton for an expression. -/
def Expr.size : Expr → Nat
  | .empty => 32
  | .char set => 64 + set.size
  | .condition _ => 32
  | .sequence first second => first.size + second.size
  | .choice left right => 64 + left.size + right.size
  | .repetition body least none => (max least 1) * body.size + 64
  | .repetition body least (some most) => most * body.size + (most - least) * 40 + 32

/-- The largest size of an automaton. -/
def sizeLimit : Nat :=
  10485760

/-- Whether the automaton for a text fits, as far as the estimate goes. -/
def seemsToFit (text : List Char) : Bool :=
  match parse text with
  | .ok expr => expr.size ≤ sizeLimit
  | .error _ => true

/-- Reads a regular expression whose automaton fits. -/
def readWith (fits : List Char → Bool) (text : List Char) : Except PatternError Expr := do
  let expr ← parse text
  if fits text then return expr else throw .tooLarge

end TrackBrowser.Pattern
