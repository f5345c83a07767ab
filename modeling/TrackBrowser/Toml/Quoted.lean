/-
Module: TrackBrowser.Toml.Quoted
Purpose: The strings of TOML.
-/
import TrackBrowser.Toml.Blank

/-!
A string is basic, with double quotes and escapes, or literal, with single quotes and without.  Both
have a form of several lines with three quotes at each end, in which a line end right after the
first three quotes does not count and at most two quotes may precede the last three.
-/

namespace TrackBrowser.Toml

/-- The value of a hexadecimal digit. -/
def hexDigit? (c : Char) : Option Nat :=
  if '0' ≤ c && c ≤ '9' then some (c.toNat - '0'.toNat)
  else if 'a' ≤ c.toLower && c.toLower ≤ 'f' then some (c.toLower.toNat - 'a'.toNat + 10)
  else none

/-- The character with a hexadecimal number, if there is one. -/
def hexChar? (digits : List Char) : Option Char := do
  let values ← digits.mapM hexDigit?
  let point := values.foldl (fun total digit => 16 * total + digit) 0
  if h : point.isValidChar then some ⟨point.toUInt32, by
    have small : point < 4294967296 := by
      rcases h with h | h <;> omega
    simpa [UInt32.isValidChar, Nat.toUInt32, UInt32.toNat_ofNat_of_lt' small] using h⟩
  else none

/-- The characters that are written as a backslash and one letter. -/
def shortEscape? : Char → Option Char
  | 'b' => some '\x08'
  | 't' => some '\t'
  | 'n' => some '\n'
  | 'f' => some '\x0c'
  | 'r' => some '\r'
  | 'e' => some '\x1b'
  | '"' => some '"'
  | '\\' => some '\\'
  | _ => none

/-- What was read of a string, put before the rest of it. -/
def putBefore (chars : List Char) (rest : Option (List Char × List Char)) :
    Option (List Char × List Char) :=
  rest.map fun (content, after) => (chars ++ content, after)

/-- Whether a backslash before this text joins lines: only blanks stand before the line end. -/
def joinsLines (text : List Char) : Bool :=
  (lineEnd? (skipGap text)).isSome

/-- Reads a basic string after its opening quotes.  `long` says that it has three of them, and
`joining` that line ends and blanks are being skipped. -/
def basicRest? (long joining : Bool) : List Char → Option (List Char × List Char)
  | [] => none
  | '\r' :: '\n' :: rest =>
    if joining then basicRest? long true rest
    else if long then putBefore ['\n'] (basicRest? long false rest)
    else none
  | '\n' :: rest =>
    if joining then basicRest? long true rest
    else if long then putBefore ['\n'] (basicRest? long false rest)
    else none
  | '"' :: rest =>
    if long then
      match rest with
      | '"' :: '"' :: '"' :: '"' :: after => some (['"', '"'], after)
      | '"' :: '"' :: '"' :: after => some (['"'], after)
      | '"' :: '"' :: after => some ([], after)
      | _ => putBefore ['"'] (basicRest? long false rest)
    else some ([], rest)
  | '\\' :: 'u' :: a :: b :: c :: d :: rest => do
    let char ← hexChar? [a, b, c, d]
    putBefore [char] (basicRest? long false rest)
  | '\\' :: 'U' :: a :: b :: c :: d :: e :: f :: g :: h :: rest => do
    let char ← hexChar? [a, b, c, d, e, f, g, h]
    putBefore [char] (basicRest? long false rest)
  | '\\' :: 'x' :: a :: b :: rest => do
    let char ← hexChar? [a, b]
    putBefore [char] (basicRest? long false rest)
  | '\\' :: c :: rest =>
    if long && joinsLines (c :: rest) then basicRest? long true (c :: rest)
    else do
      let char ← shortEscape? c
      putBefore [char] (basicRest? long false rest)
  | c :: rest =>
    if joining && isGap c then basicRest? long true rest
    else if isPrintable c then putBefore [c] (basicRest? long false rest)
    else none

/-- Reads a literal string after its opening quotes.  `long` says that it has three of them. -/
def literalRest? (long : Bool) : List Char → Option (List Char × List Char)
  | [] => none
  | '\r' :: '\n' :: rest => if long then putBefore ['\n'] (literalRest? long rest) else none
  | '\n' :: rest => if long then putBefore ['\n'] (literalRest? long rest) else none
  | '\'' :: rest =>
    if long then
      match rest with
      | '\'' :: '\'' :: '\'' :: '\'' :: after => some (['\'', '\''], after)
      | '\'' :: '\'' :: '\'' :: after => some (['\''], after)
      | '\'' :: '\'' :: after => some ([], after)
      | _ => putBefore ['\''] (literalRest? long rest)
    else some ([], rest)
  | c :: rest => if isPrintable c then putBefore [c] (literalRest? long rest) else none

/-- Drops a line end that follows opening quotes. -/
def skipFirstLineEnd (text : List Char) : List Char :=
  (lineEnd? text).getD text

/-- Reads a string of one line, with its opening quote. -/
def shortString? : List Char → Option (List Char × List Char)
  | '"' :: rest => basicRest? false false rest
  | '\'' :: rest => literalRest? false rest
  | _ => none

/-- Reads a string, with its opening quotes. -/
def string? (text : List Char) : Option (List Char × List Char) :=
  match text with
  | '"' :: '"' :: '"' :: rest => basicRest? true false (skipFirstLineEnd rest)
  | '\'' :: '\'' :: '\'' :: rest => literalRest? true (skipFirstLineEnd rest)
  | _ => shortString? text

end TrackBrowser.Toml
