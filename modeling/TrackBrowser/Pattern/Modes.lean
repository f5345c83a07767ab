/-
Module: TrackBrowser.Pattern.Modes
Purpose: The modes that flags in an expression switch on and off.
-/

namespace TrackBrowser.Pattern

/-- The modes that have a flag. -/
inductive Mode where
  | ignoreCase
  | multiLine
  | dotAll
  | swapGreed
  | unicode
  | crlf
  | verbose
  deriving DecidableEq, Repr, Inhabited

/-- The mode of a flag letter. -/
def Mode.ofLetter? (letter : Char) : Option Mode :=
  if letter == 'i' then some .ignoreCase
  else if letter == 'm' then some .multiLine
  else if letter == 's' then some .dotAll
  else if letter == 'U' then some .swapGreed
  else if letter == 'u' then some .unicode
  else if letter == 'R' then some .crlf
  else if letter == 'x' then some .verbose
  else none

/-- Which modes are on.  Expressions start without regard to case and with Unicode. -/
structure Modes where
  ignoreCase : Bool := true
  multiLine : Bool := false
  dotAll : Bool := false
  swapGreed : Bool := false
  unicode : Bool := true
  crlf : Bool := false
  verbose : Bool := false
  deriving DecidableEq, Repr, Inhabited

/-- Modes to switch on (`true`) or off, in order. -/
abbrev ModeChanges := List (Mode × Bool)

namespace Modes

/-- Switches one mode. -/
def set (modes : Modes) (mode : Mode) (on : Bool) : Modes :=
  match mode with
  | .ignoreCase => { modes with ignoreCase := on }
  | .multiLine => { modes with multiLine := on }
  | .dotAll => { modes with dotAll := on }
  | .swapGreed => { modes with swapGreed := on }
  | .unicode => { modes with unicode := on }
  | .crlf => { modes with crlf := on }
  | .verbose => { modes with verbose := on }

/-- Switches several modes. -/
def apply (modes : Modes) (changes : ModeChanges) : Modes :=
  changes.foldl (fun modes change => modes.set change.1 change.2) modes

end Modes

end TrackBrowser.Pattern
