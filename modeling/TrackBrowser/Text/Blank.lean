/-
Module: TrackBrowser.Text.Blank
Purpose: Blank characters and the trimming of texts.
-/

namespace TrackBrowser.Text

/-- The characters with the property `White_Space`. -/
def isBlank (c : Char) : Bool :=
  let point := c.toNat
  (9 ≤ point && point ≤ 13) || point == 0x20 || point == 0x85 || point == 0xa0 ||
    point == 0x1680 || (0x2000 ≤ point && point ≤ 0x200a) || point == 0x2028 ||
    point == 0x2029 || point == 0x202f || point == 0x205f || point == 0x3000

/-- A text without the blanks it starts with. -/
def trimStart (text : List Char) : List Char :=
  text.dropWhile isBlank

/-- A text without the blanks it ends with. -/
def trimEnd (text : List Char) : List Char :=
  (text.reverse.dropWhile isBlank).reverse

/-- A text without the blanks around it. -/
def trim (text : List Char) : List Char :=
  trimEnd (trimStart text)

/-- A string without the blanks around it. -/
def trimmed (text : String) : String :=
  String.ofList (trim text.toList)

/-- A string with its ASCII capitals in lower case and everything else unchanged. -/
def asciiLower (text : String) : String :=
  String.ofList (text.toList.map Char.toLower)

end TrackBrowser.Text
