/-
Module: TrackBrowser.Pattern.Parser
Purpose: Reads regular expressions.
-/
import TrackBrowser.Pattern.Expr
import TrackBrowser.Pattern.Token

/-!
The tokens of an expression are read from left to right and assembled on a stack of open groups.
Flags hold until the end of the group they stand in, across its alternatives.  `parse` accepts a
text when every group is closed and nothing is nested too deeply.
-/

namespace TrackBrowser.Pattern

/-- The set of characters that a character matches under the modes in force. -/
def variants (modes : Modes) (c : Char) : CharSet :=
  if modes.ignoreCase then
    if modes.unicode then .ofList (Unicode.caseOrbit c) else .ofList (CharSet.asciiOrbit c)
  else .single c

namespace Atom

/-- The expression of an atom under the modes in force.  Without Unicode neither the dot nor an
escaped byte outside ASCII is allowed, because they can match a part of a character. -/
def toExpr (modes : Modes) : Atom → Except PatternError Expr
  | .literal written =>
    if written.isByte && !modes.unicode && 0x80 ≤ written.char.toNat then .error .invalidUtf8
    else .ok (.char (variants modes written.char))
  | .dot =>
    if !modes.unicode then .error .invalidUtf8
    else if modes.dotAll then .ok (.char (.complement .empty))
    else if modes.crlf then .ok (.char (.complement (.ofList ['\n', '\r'])))
    else .ok (.char (.complement (.single '\n')))
  | .lineStart =>
    .ok (.condition (if modes.multiLine then if modes.crlf then .lineStartCrlf else .lineStart
      else .textStart))
  | .lineEnd =>
    .ok (.condition (if modes.multiLine then if modes.crlf then .lineEndCrlf else .lineEnd
      else .textEnd))
  | .condition wanted => .ok (.condition (wanted.withUnicode modes.unicode))
  | .letterClass kind negated => return .char (← kind.toSet modes negated)
  | .property wanted negated => return .char (← wanted.toSet modes negated)

end Atom

/-- A part of a sequence: a change of modes, or an expression with the depth of its nesting. -/
inductive Part where
  | modes
  | expr (expr : Expr) (depth : Nat)
  deriving DecidableEq, Repr, Inhabited

/-- The group that is being read: the parts of its last alternative and the alternatives before
it, each with the latest first. -/
structure Level where
  parts : List Part := []
  branches : List (Expr × Nat) := []
  deriving DecidableEq, Repr, Inhabited

namespace Level

/-- Adds an expression to the last alternative. -/
def add (level : Level) (expr : Expr) (depth : Nat) : Level :=
  { level with parts := .expr expr depth :: level.parts }

/-- An expression with its depth; a change of modes matches the empty text. -/
def partContent : Part → Expr × Nat
  | .modes => (.empty, 0)
  | .expr expr depth => (expr, depth)

/-- The last alternative.  Only a sequence of several parts counts as nesting. -/
def lastBranch (level : Level) : Expr × Nat :=
  match level.parts with
  | [] => (.empty, 0)
  | last :: before =>
    let joined := before.foldl
      (fun (rest : Expr × Nat) part =>
        let content := partContent part
        (.sequence content.1 rest.1, max content.2 rest.2))
      (partContent last)
    if before.isEmpty then joined else (joined.1, joined.2 + 1)

/-- Ends the last alternative and begins another one. -/
def nextBranch (level : Level) : Level :=
  ⟨[], level.lastBranch :: level.branches⟩

/-- Everything read, as one expression.  Only a choice between several alternatives counts as
nesting. -/
def content (level : Level) : Expr × Nat :=
  let joined := level.branches.foldl
    (fun (rest : Expr × Nat) branch => (.choice branch.1 rest.1, max branch.2 rest.2))
    level.lastBranch
  if level.branches.isEmpty then joined else (joined.1, joined.2 + 1)

/-- Puts a repetition on the last part.  Neither nothing nor a change of modes can be repeated. -/
def repeatLast (level : Level) (least : Nat) (most : Option Nat) : Except PatternError Level :=
  match level.parts with
  | .expr expr depth :: before =>
    .ok { level with parts := .expr (expr.repeated least most) (depth + 1) :: before }
  | _ => .error .nothingToRepeat

end Level

/-- The state of reading: the modes in force, the group being read, the groups around it with the
modes to return to, and the names of all groups so far. -/
structure Assembly where
  modes : Modes := {}
  level : Level := {}
  outer : List (Modes × Level) := []
  names : List String := []
  deriving DecidableEq, Repr, Inhabited

namespace Assembly

/-- Adds an expression to the group being read. -/
def add (assembly : Assembly) (expr : Expr) (depth : Nat) : Assembly :=
  { assembly with level := assembly.level.add expr depth }

/-- Opens a group. -/
def openGroup (assembly : Assembly) (changes : ModeChanges) : Assembly :=
  { assembly with
    modes := assembly.modes.apply changes
    level := {}
    outer := (assembly.modes, assembly.level) :: assembly.outer }

/-- Takes in the next token. -/
def take (assembly : Assembly) : Token → Except PatternError Assembly
  | .openGroup name changes =>
    match name with
    | none => .ok (assembly.openGroup changes)
    | some name =>
      if assembly.names.contains name then .error .duplicateGroupName
      else .ok { assembly.openGroup changes with names := name :: assembly.names }
  | .closeGroup =>
    match assembly.outer with
    | [] => .error .unopenedGroup
    | (modes, level) :: outer =>
      let content := assembly.level.content
      .ok { assembly with
        modes := modes
        level := level.add content.1 (content.2 + 1)
        outer := outer }
  | .bar => .ok { assembly with level := assembly.level.nextBranch }
  | .setModes changes =>
    .ok { assembly with
      modes := assembly.modes.apply changes
      level := { assembly.level with parts := .modes :: assembly.level.parts } }
  | .repetition least most => do
    let level ← assembly.level.repeatLast least most
    return { assembly with level := level }
  | .atom written => do
    let expr ← written.toExpr assembly.modes
    return assembly.add expr 0
  | .bracket tree => do
    let set ← tree.toSet assembly.modes
    return assembly.add (.char set) (tree.depth false)

/-- Takes in all tokens of a text.  Every token takes a character, so the length of the text is
fuel enough. -/
def takeAll : (fuel : Nat) → Assembly → List Char → Except PatternError Assembly
  | 0, assembly, _ => .ok assembly
  | fuel + 1, assembly, text =>
    match spaced assembly.modes.verbose text with
    | [] => .ok assembly
    | text => do
      let (next, rest) ← token assembly.modes.verbose text
      let assembly ← assembly.take next
      takeAll fuel assembly rest

end Assembly

/-- The deepest nesting. -/
def depthLimit : Nat :=
  250

/-- Reads a regular expression. -/
def parse (text : List Char) : Except PatternError Expr := do
  let assembly ← Assembly.takeAll (text.length + 1) {} text
  if assembly.outer.isEmpty then
    let (expr, depth) := assembly.level.content
    if depthLimit < depth then throw .tooDeeplyNested else return expr
  else throw .unclosedGroup

/-- The text of an expression that matches whole texts only. -/
def anchored (text : List Char) : List Char :=
  ['^', '(', '?', ':'] ++ text ++ [')', '$']

end TrackBrowser.Pattern
