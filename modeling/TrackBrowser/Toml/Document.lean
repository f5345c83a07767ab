/-
Module: TrackBrowser.Toml.Document
Purpose: Reads TOML texts.
-/
import TrackBrowser.Toml.Node
import TrackBrowser.Toml.Scalar

/-!
A text is a sequence of lines: headers and keys with values.  Values in brackets and braces may
stretch over several lines and end with a comma.  Whatever is wrong anywhere makes the whole text
unreadable.
-/

namespace TrackBrowser.Toml

/-- The characters of keys without quotes. -/
def isKeyChar (c : Char) : Bool :=
  c.isAlphanum || c == '_' || c == '-'

/-- Reads one key, with or without quotes. -/
def simpleKey? (text : List Char) : Option (String × List Char) :=
  match text with
  | '"' :: _ => (shortString? text).map fun (key, rest) => (String.ofList key, rest)
  | '\'' :: _ => (shortString? text).map fun (key, rest) => (String.ofList key, rest)
  | _ =>
    let key := text.takeWhile isKeyChar
    if key.isEmpty then none else some (String.ofList key, text.dropWhile isKeyChar)

/-- A dotted key: the keys on the way and the last one. -/
structure DottedKey where
  path : List String
  last : String
  deriving DecidableEq, Repr, Inhabited

/-- Reads a dotted key with the gaps around its parts.  There are at most `parts` parts. -/
def dottedKey? (parts : Nat) (text : List Char) : Option (DottedKey × List Char) :=
  match parts with
  | 0 => none
  | parts + 1 => do
    let (key, rest) ← simpleKey? (skipGap text)
    match skipGap rest with
    | '.' :: after =>
      let (inner, after) ← dottedKey? parts after
      return (⟨key :: inner.path, inner.last⟩, after)
    | after => return (⟨[], key⟩, after)

/-- Reads a dotted key; it has no more parts than characters. -/
def key? (text : List Char) : Option (DottedKey × List Char) :=
  dottedKey? text.length text

mutual

/-- Reads a value.  `fuel` bounds the values, items and entries that are open at once. -/
def valueWith? (fuel : Nat) (text : List Char) : Option (ConfigValue × List Char) :=
  match fuel, text with
  | 0, _ => none
  | fuel + 1, '[' :: rest => do
    let (items, after) ← itemsWith? fuel rest
    return (.list items, after)
  | fuel + 1, '\x7b' :: rest => do
    let (entries, after) ← entriesWith? fuel [] rest
    return ((Node.table .header entries).toValue, after)
  | _ + 1, '"' :: _ =>
    (string? text).map fun (content, rest) => (.text (String.ofList content), rest)
  | _ + 1, '\'' :: _ =>
    (string? text).map fun (content, rest) => (.text (String.ofList content), rest)
  | _ + 1, _ => do
    let (written, rest) := scalarText text
    return (← scalar? written, rest)

/-- Reads the items of a list after its opening bracket or a comma. -/
def itemsWith? (fuel : Nat) (text : List Char) : Option (List ConfigValue × List Char) :=
  match fuel with
  | 0 => none
  | fuel + 1 => do
    match ← skipLines? false text with
    | ']' :: rest => return ([], rest)
    | start =>
      let (item, rest) ← valueWith? fuel start
      match ← skipLines? false rest with
      | ',' :: rest =>
        let (items, rest) ← itemsWith? fuel rest
        return (item :: items, rest)
      | ']' :: rest => return ([item], rest)
      | _ => none

/-- Reads the entries of a table after its opening brace or a comma, and adds them to those
before. -/
def entriesWith? (fuel : Nat) (entries : Entries) (text : List Char) :
    Option (Entries × List Char) :=
  match fuel with
  | 0 => none
  | fuel + 1 => do
    match ← skipLines? false text with
    | '\x7d' :: rest => return (entries, rest)
    | start =>
      let (key, rest) ← key? start
      let rest ← (match rest with | '=' :: rest => some rest | _ => none)
      let (value, rest) ← valueWith? fuel (skipGap rest)
      let entries ← entries.assign? key.path key.last value
      match ← skipLines? false rest with
      | ',' :: rest => entriesWith? fuel entries rest
      | '\x7d' :: rest => return (entries, rest)
      | _ => none

end

/-- Reads a value.  Every second step of the reading takes a character. -/
def value? (text : List Char) : Option (ConfigValue × List Char) :=
  valueWith? (2 * text.length + 2) text

/-- What a line says. -/
inductive Statement where
  | openTable (key : DottedKey)
  | openFurther (key : DottedKey)
  | assign (key : DottedKey) (value : ConfigValue)
  deriving Repr, Inhabited

/-- Reads a statement, without what follows it in its line. -/
def statement? (text : List Char) : Option (Statement × List Char) :=
  match text with
  | '[' :: '[' :: rest => do
    let (key, rest) ← key? rest
    match rest with
    | ']' :: ']' :: rest => return (.openFurther key, rest)
    | _ => none
  | '[' :: rest => do
    let (key, rest) ← key? rest
    match rest with
    | ']' :: rest => return (.openTable key, rest)
    | _ => none
  | _ => do
    let (key, rest) ← key? text
    match rest with
    | '=' :: rest =>
      let (value, rest) ← value? (skipGap rest)
      return (.assign key value, rest)
    | _ => none

/-- Reads all statements.  Every one takes at least one character. -/
def statements? (fuel : Nat) (text : List Char) : Option (List Statement) :=
  match fuel with
  | 0 => none
  | fuel + 1 => do
    match ← skipLines? false text with
    | [] => return []
    | start =>
      let (statement, rest) ← statement? start
      let rest ← endLine? rest
      return statement :: (← statements? fuel rest)

/-- The tables of a text so far, and the path of the one that keys are added to. -/
structure Assembly where
  entries : Entries := []
  current : List String := []
  deriving Repr, Inhabited

/-- Carries out a statement. -/
def Assembly.step? (assembly : Assembly) (statement : Statement) : Option Assembly := do
  match statement with
  | .openTable key =>
    return ⟨← assembly.entries.openTable? key.path key.last, key.path ++ [key.last]⟩
  | .openFurther key =>
    return ⟨← assembly.entries.openFurther? key.path key.last, key.path ++ [key.last]⟩
  | .assign key value =>
    let entries ← assembly.entries.along? assembly.current false none fun _ inner =>
      inner.assign? key.path key.last value
    return { assembly with entries := entries }

/-- Reads a TOML text, which may begin with a byte order mark. -/
def parse? (text : String) : Option (List (String × ConfigValue)) := do
  let chars :=
    match text.toList with
    | '\uFEFF' :: rest => rest
    | chars => chars
  let statements ← statements? (chars.length + 1) chars
  let assembly ← statements.foldlM Assembly.step? {}
  return Node.toValue.entryValues assembly.entries

end TrackBrowser.Toml
