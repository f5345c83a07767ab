/-
Module: TrackBrowser.Toml.Blank
Purpose: What stands between the parts of a TOML text: blanks, line ends and comments.
-/

namespace TrackBrowser.Toml

/-- Blanks inside a line. -/
def isGap (c : Char) : Bool :=
  c == ' ' || c == '\t'

/-- The characters that may stand in comments and strings: no control characters but tabs. -/
def isPrintable (c : Char) : Bool :=
  c == '\t' || (0x20 ≤ c.toNat && c.toNat != 0x7f)

/-- Drops blanks inside a line. -/
def skipGap (text : List Char) : List Char :=
  text.dropWhile isGap

/-- Splits off a line end. -/
def lineEnd? : List Char → Option (List Char)
  | '\n' :: rest => some rest
  | '\r' :: '\n' :: rest => some rest
  | _ => none

/-- Drops a comment that starts here, up to the end of its line. -/
def skipComment? (text : List Char) : Option (List Char) :=
  match text with
  | '#' :: rest =>
    let after := rest.dropWhile isPrintable
    if after.isEmpty || (lineEnd? after).isSome then some after else none
  | _ => some text

/-- Drops what may follow the last part of a line, with the line end. -/
def endLine? (text : List Char) : Option (List Char) := do
  let after ← skipComment? (skipGap text)
  if after.isEmpty then some [] else lineEnd? after

/-- Drops blanks, line ends and comments. -/
def skipLines? : (inComment : Bool) → List Char → Option (List Char)
  | _, [] => some []
  | _, '\n' :: rest => skipLines? false rest
  | _, '\r' :: '\n' :: rest => skipLines? false rest
  | true, c :: rest => if isPrintable c then skipLines? true rest else none
  | false, '#' :: rest => skipLines? true rest
  | false, c :: rest => if isGap c then skipLines? false rest else some (c :: rest)

end TrackBrowser.Toml
