/-
Module: TrackBrowser.Unicode.BreakClass
Purpose: The classes of characters by which texts are cut into words and sentences.
-/
import TrackBrowser.Unicode.RunTable

/-!
The classes are known by codes of two letters, for words and for sentences apart.  A character that
plays no part in cutting has the code `XX`, which no name stands for.
-/

namespace TrackBrowser.Unicode

/-- What texts are cut into. -/
inductive BreakKind where
  | word
  | sentence
  deriving DecidableEq, Repr, Inhabited

namespace BreakKind

/-- The codes of the classes with the names of each. -/
def names : BreakKind → List (String × List String)
  | .word =>
    [("CR", ["cr"]), ("DQ", ["dq", "doublequote"]), ("EE", ["extend"]),
     ("EX", ["ex", "extendnumlet"]), ("FO", ["fo", "format"]), ("HL", ["hl", "hebrewletter"]),
     ("KA", ["ka", "katakana"]), ("LE", ["le", "aletter"]), ("LF", ["lf"]),
     ("MB", ["mb", "midnumlet"]), ("ML", ["ml", "midletter"]), ("MN", ["mn", "midnum"]),
     ("NL", ["nl", "newline"]), ("NU", ["nu", "numeric"]), ("RI", ["ri", "regionalindicator"]),
     ("SQ", ["sq", "singlequote"]), ("WS", ["wsegspace"]), ("ZJ", ["zwj"])]
  | .sentence =>
    [("AT", ["at", "aterm"]), ("CL", ["cl", "close"]), ("CR", ["cr"]), ("EX", ["ex", "extend"]),
     ("FO", ["fo", "format"]), ("LE", ["le", "oletter"]), ("LF", ["lf"]), ("LO", ["lo", "lower"]),
     ("NU", ["nu", "numeric"]), ("SC", ["sc", "scontinue"]), ("SE", ["se", "sep"]), ("SP", ["sp"]),
     ("ST", ["st", "sterm"]), ("UP", ["up", "upper"])]

/-- The runs of characters that are equal for cutting into words, in the order of code points. -/
def wordTable : RunTable String :=
  .ofLines 2
    ["aXX1LF2NL1CR12XX1WS1XX1DQ4XX1SQ4XX1MN1XX1MB1XXaNU1ML1MN5XX1aLE4XX1EX1XX1aLEaXX1NL24XX1LE",
    "2XX1FO7XX1LE1XX1ML2XX1LE5XX17LE1XX1fLE1XX1e0LE6XX22LE70EE5LE1XX2LE2XX4LE1MN1LE6XX1LE1ML3LE",
    "1XX1LE1XX14LE1XX53LE1XX8bLE1XX7EEa6LE1XX26LE2XX4LE1XX1LE1ML29LE1MN1LE6XX2dEE1XX1EE1XX2EE",
    "1XX2EE1XX1EE8XX1bHL4XX4HL1LE1MLbXX6NU6XX2MN2XXbEE1XX1FO3XX2bLE15EEaNU1XX1NU1MN1XX2LE1EE",
    "63LE1XX1LE7EE1NU1XX6EE2LE2EE1XX4EE2LEaNU3LE2XX1LEfXX2LE1EE1eLE1bEE2XX59LEbEE1LEeXXaNU21LE",
    "9EE2LE2XX1MN1XX1LE2XX1EE2XX16LE4EE1LE9EE1LE3EE1LE5EE12XX19LE3EE4XXbLE5XX18LE1XX6LE1XX2NU",
    "5XX9EE2aLE18EE1NU21EE36LE3EE1LE12EE1LE7EEaLE2EE2XXaNU1XX10LE3EE1XX8LE2XX2LE2XX16LE1XX7LE",
    "1XX1LE3XX4LE2XX1EE1LE7EE2XX2EE2XX3EE1LE8XX1EE4XX2LE1XX3LE2EE2XXaNU2LEaXX1LE1XX1EE2XX3EE1XX",
    "6LE4XX2LE2XX16LE1XX7LE1XX2LE1XX2LE1XX2LE2XX1EE1XX5EE4XX2EE2XX3EE3XX1EE7XX4LE1XX1LE7XXaNU",
    "2EE3LE1EEbXX3EE1XX9LE1XX3LE1XX16LE1XX7LE1XX2LE1XX5LE2XX1EE1LE8EE1XX3EE1XX3EE2XX1LEfXX2LE",
    "2EE2XXaNU9XX1LE6EE1XX3EE1XX8LE2XX2LE2XX16LE1XX7LE1XX2LE1XX5LE2XX1EE1LE7EE2XX2EE2XX3EE7XX",
    "3EE4XX2LE1XX3LE2EE2XXaNU1XX1LE10XX1EE1LE1XX6LE3XX3LE1XX4LE3XX2LE1XX1LE1XX2LE3XX2LE3XX3LE",
    "3XXcLE4XX5EE3XX3EE1XX4EE2XX1LE6XX1EEeXXaNU10XX5EE8LE1XX3LE1XX17LE1XX10LE2XX1EE1LE7EE1XX3EE",
    "1XX4EE7XX2EE1XX3LE2XX1LE2XX2LE2EE2XXaNU10XX1LE3EE1XX8LE1XX3LE1XX17LE1XXaLE1XX5LE2XX1EE1LE",
    "7EE1XX3EE1XX4EE7XX2EE6XX2LE1XX2LE2EE2XXaNU1XX2LE1EEcXX4EE9LE1XX3LE1XX29LE2EE1LE7EE1XX3EE",
    "1XX4EE1LE5XX3LE1EE7XX3LE2EE2XXaNUaXX6LE1XX3EE1XX12LE3XX18LE1XX9LE1XX1LE2XX7LE3XX1EE4XX6EE",
    "1XX1EE1XX8EE6XXaNU2XX2EE3dXX1EE2XX7EEcXX8EE1XXaNU57XX1EE2XX9EEbXX7EE1XXaNU26XX1LE17XX2EE",
    "6XXaNUbXX1EE1XX1EE1XX1EE4XX2EE8LE1XX24LE4XX14EE1XX2EE5LEbEE1XX24EE9XX1EE64XX14EE1XXaNUcXX",
    "4EE4XX3EE1XX3EE2XX7EE3XX4EEdXXcEE1XX1EEaNU4EE2XX26LE1XX1LE5XX1LE2XX2bLE1XX14dLE1XX4LE2XX",
    "7LE1XX1LE1XX4LE2XX29LE1XX4LE2XX21LE1XX4LE2XX7LE1XX1LE1XX4LE2XXfLE1XX39LE1XX4LE2XX43LE2XX",
    "3EE20XX10LE10XX56LE2XX6LE3XX26cLE2XX11LE1WS1aLE5XX4bLE3XXbLE7XX12LE4EE9XX13LE3EEbXX12LE2EE",
    "cXXdLE1XX3LE1XX2EE40XX20EE9XX1EE2XXaNU21XX3EE1FO1EEaNU6XX59LE7XX5LE2EE22LE1EE1LE5XX46LEaXX",
    "1fLE1XXcEE4XXcEEaXXaNU80XXaNU26XX17LE5EE39XXaEE1XX1dEE2XX1EEaNU6XXaNU16XX1fEE31XX5EE2fLE",
    "11EE8LE3XXaNU11XX9EEcXX3EE1eLEdEE2LEaNU2cLEeEEcXX24LE14EE8XXaNU3XX3LEaNU24LE2XXbLE5XX2bLE",
    "2XX3LE10XX3EE1XX15EE4LE1EE6LE1EE2LE3EE1LE5XXc0LE40EE116LE2XX6LE2XX26LE2XX6LE2XX8LE1XX1LE",
    "1XX1LE1XX1LE1XX1fLE2XX35LE1XX7LE1XX1LE3XX3LE1XX7LE3XX4LE2XX6LE4XXdLE5XX3LE1XX7LE3XX7WS1XX",
    "3WS1XX1EE1ZJ2FO8XX2MBaXX1MB2XX1ML2NL5FO1EXfXX2EX3XX1MNfXX1EXaXX1WS5FO1XXaFO1XX1LEdXX1LE",
    "10XXdLE33XX21EE11XX1LE4XX1LE2XXaLE1XX1LE3XX5LE6XX1LE1XX1LE1XX1LE1XX4LE1XXbLE2XX4LE5XX5LE",
    "4XX1LE11XX29LE32dXX34LE716XXe5LE6XX4LE3EE2LEcXX26LE1XX1LE5XX1LE2XX38LE7XX1LEfXX1EE17LE9XX",
    "7LE1XX7LE1XX7LE1XX7LE1XX7LE1XX7LE1XX7LE1XX7LE1XX20EE2fXX1LE1d0XX1WS4XX1LE24XX6EE1XX5KA5XX",
    "2LE5cXX2EE2KA3XX5bKA1XX4KA5XX2bLE1XX5eLE11XX20LE30XX10KAd0XX2fKA1XX58KA6ca8XX48dLE43XX2eLE",
    "2XX10dLE3XX10LEaNU2LE14XX2fLE4EE1XXaEE1XX1fLE2EE50LE2EE16XXc6LE2XX2LE1XX1LE1XX8LE15XX10LE",
    "1EE3LE1EE4LE1EE17LE5EE4XX1EE13XX34LEcXX2EE32LE12EEaXXaNU6XX12EE6LE3XX1LE1XX2LE1EEaNU1cLE",
    "8EE2XX17LEdEEcXX1dLE3XX4EE2fLEeEEeXX1LEaNUbXX1EEaXXaNU6XX29LEeEE9XX3LE1EE8LE2EE2XXaNU21XX",
    "3EE32XX1EE1XX3EE2XX2EE5XX2EE1XX1EE1eXXbLE5EE2XX3LE2EEaXX6LE2XX6LE2XX6LE9XX7LE1XX7LE1XX3aLE",
    "6XX73LE8EE1XX2EE2XXaNU6XX2ba4LEcXX17LE4XX31LE2304XX7LEcXX5LE5XX1HL1EEaHL1XXdHL1XX5HL1XX1HL",
    "1XX2HL1XX2HL1XXaHL62LE21XX16bLE12XX40LE2XX36LE28XXcLE4XX10EE1MN2XX1ML1MNbXX10EE3XX2EX18XX",
    "3EX1MN1XX1MB1XX1MN1ML1aXX5LE1XX87LE2XX1FO7XX1MB4XX1MN1XX1MB1XXaNU1ML1MN5XX1aLE4XX1EX1XX",
    "1aLEbXX38KA2EE1fLE3XX6LE2XX6LE2XX6LE2XX3LE1cXX3FO4XXcLE1XX1aLE1XX13LE1XX2LE1XXfLE2XXeLE",
    "22XX7bLE45XX35LE88XX1EE82XX1dLE3XX31LEfXX1EE1fXX20LEdXX1eLE5XX26LE5EE5XX1eLE2XX24LE4XX8LE",
    "1XX5LE2aXX9eLE2XXaNU6XX24LE4XX24LE4XX28LE8XX34LEcXXbLE1XXfLE1XX7LE1XX2LE1XXbLE1XXfLE1XX7LE",
    "1XX2LE3XX34LEcXX137LE9XX16LEaXX8LE18XX6LE1XX2aLE1XX9LE45XX6LE2XX1LE1XX2cLE1XX2LE3XX1LE2XX",
    "17LEaXX17LE9XX1fLE41XX13LE1XX2LEaXX16LEaXX1aLE46XX38LE6XX2LE40XX1LE3EE1XX2EE5XX4EE4LE1XX",
    "3LE1XX1dLE2XX3EE4XX1EE20XX1dLE3XX1dLE23XX8LE1XX1cLE2EE19XX36LEaXX16LEaXX13LEdXX12LE6eXX",
    "49LE37XX33LEdXX33LEdXX24LE4EE8XXaNU6XXaNU1cLE3XX5EE1XX17LEfaXX2aLE1XX2EE3XX2LE10XX3LE37XX",
    "4EE1dLEaXX1LE8XX16LEbEE1fXX12LE4EE2aXX15LE1bXX17LE9XX3EE35LEfEE1fXXaNU1EE2LE2EE1LE9XX4EE",
    "2dLEbEE2XX1NU4XX1EEaXX1NU2XX19LE7XXaNU6XX3EE24LEeEE1XXaNU4XX1LE2EE1LE8XX23LE1EE2XX1LE9XX",
    "3EE30LEeEE4LE4XX4EE1XX2EEaNU1LE1XX1LE23XX12LE1XX19LEcEE6XX1EE2LE1EE3eXX7LE1XX1LE1XX4LE1XX",
    "fLE1XXaLE7XX2fLEcEE5XXaNU6XX4EE1XX8LE2XX2LE2XX16LE1XX7LE1XX2LE1XX5LE1XX2EE1LE7EE2XX2EE2XX",
    "3EE2XX1LE6XX1EE5XX5LE2EE2XX7EE3XX5EEbXXaLE1XX1LE2XX1LE1XX26LE1XX1LE9EE1XX1EE2XX1EE1XX4EE",
    "1XX5EE1LE1EE1LEdXX2EE1dXX35LE12EE4LE5XXaNU4XX1EE3LE1eXX30LE14EE2LE1XX1LE8XXaNUa6XX2fLE7EE",
    "2XX9EE17XX4LE2EE22XX30LE11EE3XX1LEbXXaNU26XX2bLEdEE1LE7XXaNU6XX14NU39XXfEE4XXaNUc6XX2cLE",
    "fEE65XX40LEaNU15XX8LE2XX1LE2XX8LE1XX2LE1XX18LE6EE1XX2EE2XX4EE1LE1EE1LE2EEcXXaNU46XX8LE2XX",
    "27LE7EE2XX7EE1LE1XX1LE1EE1bXX1LEaEE28LE7EE1LE4EE8XX1EE8XX1LEbEE2eLE10EE3XX1LE12XX49LEc7XX",
    "21LEfXXaNU6XX9LE1XX25LE8EE1XX8EE1LEfXXaNU18XX1eLE2XX16EE1XXeEE49XX7LE1XX2LE1XX26LE6EE3XX",
    "1EE1XX2EE1XX7EE1LE1EE8XXaNU6XX6LE1XX2LE1XX20LE5EE1XX2EE1XX5EE1LE7XXaNU136XX13LE4EE9XX2EE",
    "1LE1EEdLE1XX22LE7EE3XX5EEdXXaNU1EE55XX1LE4fXX39aLE66XX6fLE11XXc4LEa4cXX61LEfXX430LE10FO1EE",
    "6LEfEEaXXf9bLE5XX247LE1ab9XX1eLE12EEaNU6c6XX239LE7XX1fLE1XXaNU6XX4fLE1XXaNU6XX1eLE2XX5EE",
    "bXX30LE7EE9XX4LEcXXaNU9XX15LE5XX13LE1b0XX2dLE3XXaNUc6XX40LE80XX4bLE4XX1EE1LE37EE7XX4EEdLE",
    "40XX2LE1XX1LE1EEbXX2EE3ffeXX4KA1XX7KA1XX2KA1XX1KA11fXX3KA32XX1KAeXX4KAa98XX6bLE5XXdLE3XX",
    "9LE7XXaLE3XX2EE1XX4FO104cXXaNU206XX2eEE2XX17EE21eXX5EE3XX6EE8FO8EE2XX7EE1eXX4EE94XX3EE",
    "1bbXX55LE1XX47LE1XX2LE2XX1LE2XX2LE2XX4LE1XXcLE1XX1LE1XX7LE1XX41LE1XX4LE2XX8LE1XX7LE1XX1cLE",
    "1XX4LE1XX5LE1XX1LE3XX7LE1XX154LE2XX19LE1XX19LE1XX1fLE1XX19LE1XX1fLE1XX19LE1XX1fLE1XX19LE",
    "1XX1fLE1XX19LE1XX8LE2XX32NU200XX37EE4XX32EE8XX1EEeXX1EE16XX5EE1XXfEE450XX1fLE6XX6LEd5XX7EE",
    "1XX11EE2XX7EE1XX2EE1XX5EE5XX3eLE21XX1EE70XX2dLE3XX7EE7LE2XXaNU4XX1LE141XX1eLE1EE11XX2cLE",
    "4EEaNU1d6XX1cLE4EEaNUd6XX1eLE2EE1LEaNU1e5XX7LE1XX4LE1XX2LE1XXfLE1XXc5LEbXX7EE29XX44LE7EE",
    "1LE4XXaNU4a6XX4LE1XX1bLE1XX2LE1XX1LE2XX1LE1XXaLE1XX4LE1XX1LE1XX1LE6XX1LE4XX1LE1XX1LE1XX1LE",
    "1XX3LE1XX2LE1XX1LE2XX1LE1XX1LE1XX1LE1XX1LE1XX1LE1XX2LE1XX1LE2XX4LE1XX7LE1XX4LE1XX4LE1XX1LE",
    "1XXaLE1XX11LE5XX3LE1XX5LE1XX11LE274XX1aLE6XX1aLE6XX1aLE5cXX1aRI1fbXX5EE7f0XXaNUc0407XX1FO",
    "1eXX60EE80XXf0EE2fe10XX"]

/-- The runs of characters that are equal for cutting into sentences, in the order of code
points. -/
def sentenceTable : RunTable String :=
  .ofLines 2
    ["9XX1SP1LF2SP1CR12XX1SP1ST1CL4XX3CL2XX2SC1AT1XXaNU2SC3XX1ST1XX1aUP1CL1XX1CL3XX1aLO1CL1XX1CL",
    "7XX1SE1aXX1SP9XX1LO1CL1XX1FO7XX1LO4XX1LO1CL4XX17UP1XX7UP18LO1XX8LO1UP1LO1UP1LO1UP1LO1UP1LO",
    "1UP1LO1UP1LO1UP1LO1UP1LO1UP1LO1UP1LO1UP1LO1UP1LO1UP1LO1UP1LO1UP1LO1UP1LO1UP1LO1UP1LO1UP1LO",
    "1UP1LO1UP1LO1UP1LO1UP1LO1UP1LO1UP1LO1UP1LO1UP1LO1UP2LO1UP1LO1UP1LO1UP1LO1UP1LO1UP1LO1UP1LO",
    "1UP1LO1UP2LO1UP1LO1UP1LO1UP1LO1UP1LO1UP1LO1UP1LO1UP1LO1UP1LO1UP1LO1UP1LO1UP1LO1UP1LO1UP1LO",
    "1UP1LO1UP1LO1UP1LO1UP1LO1UP1LO1UP1LO1UP1LO1UP1LO1UP1LO1UP1LO2UP1LO1UP1LO1UP3LO2UP1LO1UP1LO",
    "2UP1LO3UP2LO4UP1LO2UP1LO3UP3LO2UP1LO2UP1LO1UP1LO1UP1LO2UP1LO1UP2LO1UP1LO2UP1LO3UP1LO1UP1LO",
    "2UP2LO1LE1UP3LO4LE2UP1LO2UP1LO2UP1LO1UP1LO1UP1LO1UP1LO1UP1LO1UP1LO1UP1LO1UP1LO1UP2LO1UP1LO",
    "1UP1LO1UP1LO1UP1LO1UP1LO1UP1LO1UP1LO1UP1LO1UP2LO2UP1LO1UP1LO3UP1LO1UP1LO1UP1LO1UP1LO1UP1LO",
    "1UP1LO1UP1LO1UP1LO1UP1LO1UP1LO1UP1LO1UP1LO1UP1LO1UP1LO1UP1LO1UP1LO1UP1LO1UP1LO1UP1LO1UP1LO",
    "1UP1LO1UP1LO1UP1LO1UP1LO1UP1LO1UP1LO1UP1LO1UP1LO1UP1LO1UP7LO2UP1LO2UP2LO1UP1LO4UP1LO1UP1LO",
    "1UP1LO1UP1LO1UP45LO1LE24LO7LE2LO4XXcLEeXX5LO7XX1LE1XX1LE11XX70EX1UP1LO1UP1LO1LE1XX1UP1LO",
    "2XX4LO1SC1UP6XX1UP1XX3UP1XX1UP1XX2UP1LO11UP1XX9UP23LO1UP2LO3UP3LO1UP1LO1UP1LO1UP1LO1UP1LO",
    "1UP1LO1UP1LO1UP1LO1UP1LO1UP1LO1UP1LO1UP1LO1UP5LO1UP1LO1XX1UP1LO2UP2LO33UP30LO1UP1LO1UP1LO",
    "1UP1LO1UP1LO1UP1LO1UP1LO1UP1LO1UP1LO1UP1LO1UP1LO1UP1LO1UP1LO1UP1LO1UP1LO1UP1LO1UP1LO1UP1LO",
    "1XX7EX1UP1LO1UP1LO1UP1LO1UP1LO1UP1LO1UP1LO1UP1LO1UP1LO1UP1LO1UP1LO1UP1LO1UP1LO1UP1LO1UP1LO",
    "1UP1LO1UP1LO1UP1LO1UP1LO1UP1LO1UP1LO1UP1LO1UP1LO1UP1LO1UP1LO1UP1LO1UP1LO1UP1LO2UP1LO1UP1LO",
    "1UP1LO1UP1LO1UP1LO1UP1LO1UP2LO1UP1LO1UP1LO1UP1LO1UP1LO1UP1LO1UP1LO1UP1LO1UP1LO1UP1LO1UP1LO",
    "1UP1LO1UP1LO1UP1LO1UP1LO1UP1LO1UP1LO1UP1LO1UP1LO1UP1LO1UP1LO1UP1LO1UP1LO1UP1LO1UP1LO1UP1LO",
    "1UP1LO1UP1LO1UP1LO1UP1LO1UP1LO1UP1LO1UP1LO1UP1LO1UP1LO1UP1LO1UP1LO1UP1LO1UP1LO1UP1LO1UP1LO",
    "1UP1LO1UP1LO1UP1LO1UP1LO1UP1LO1UP1LO1UP1LO1UP1LO1XX26UP2XX1LE3XX1SC2XX29LO1ST7XX2dEX1XX1EX",
    "1XX2EX1XX2EX1XX1EX8XX1bLE4XX5LEcXX6NU6XX2SC2XXbEX1XX1FO3ST2bLE15EXaNU1XX2NU1XX2LE1EX63LE",
    "1ST1LE7EX1NU1XX6EX2LE2EX1XX4EX2LEaNU3LE2XX1LE3STcXX2LE1EX1eLE1bEX2XX59LEbEX1LEeXXaNU21LE",
    "9EX2LE2XX1SC1ST1LE2XX1EX2XX16LE4EX1LE9EX1LE3EX1LE5EX9XX1ST1XX1ST3XX2ST1XX19LE3EX4XXbLE5XX",
    "18LE1XX6LE1XX2NU5XX9EX2aLE18EX1NU21EX36LE3EX1LE12EX1LE7EXaLE2EX2STaNU1XX10LE3EX1XX8LE2XX",
    "2LE2XX16LE1XX7LE1XX1LE3XX4LE2XX1EX1LE7EX2XX2EX2XX3EX1LE8XX1EX4XX2LE1XX3LE2EX2XXaNU2LEaXX",
    "1LE1XX1EX2XX3EX1XX6LE4XX2LE2XX16LE1XX7LE1XX2LE1XX2LE1XX2LE2XX1EX1XX5EX4XX2EX2XX3EX3XX1EX",
    "7XX4LE1XX1LE7XXaNU2EX3LE1EXbXX3EX1XX9LE1XX3LE1XX16LE1XX7LE1XX2LE1XX5LE2XX1EX1LE8EX1XX3EX",
    "1XX3EX2XX1LEfXX2LE2EX2XXaNU9XX1LE6EX1XX3EX1XX8LE2XX2LE2XX16LE1XX7LE1XX2LE1XX5LE2XX1EX1LE",
    "7EX2XX2EX2XX3EX7XX3EX4XX2LE1XX3LE2EX2XXaNU1XX1LE10XX1EX1LE1XX6LE3XX3LE1XX4LE3XX2LE1XX1LE",
    "1XX2LE3XX2LE3XX3LE3XXcLE4XX5EX3XX3EX1XX4EX2XX1LE6XX1EXeXXaNU10XX5EX8LE1XX3LE1XX17LE1XX10LE",
    "2XX1EX1LE7EX1XX3EX1XX4EX7XX2EX1XX3LE2XX1LE2XX2LE2EX2XXaNU10XX1LE3EX1XX8LE1XX3LE1XX17LE1XX",
    "aLE1XX5LE2XX1EX1LE7EX1XX3EX1XX4EX7XX2EX6XX2LE1XX2LE2EX2XXaNU1XX2LE1EXcXX4EX9LE1XX3LE1XX",
    "29LE2EX1LE7EX1XX3EX1XX4EX1LE5XX3LE1EX7XX3LE2EX2XXaNUaXX6LE1XX3EX1XX12LE3XX18LE1XX9LE1XX1LE",
    "2XX7LE3XX1EX4XX6EX1XX1EX1XX8EX6XXaNU2XX2EXdXX30LE1EX2LE7EX5XX7LE8EX1XXaNU27XX2LE1XX1LE1XX",
    "5LE1XX18LE1XX1LE1XXaLE1EX2LE9EX1LE2XX5LE1XX1LE1XX7EX1XXaNU2XX4LE20XX1LE17XX2EX6XXaNUbXX1EX",
    "1XX1EX1XX1EX4CL2EX8LE1XX24LE4XX14EX1XX2EX5LEbEX1XX24EX9XX1EX39XX2bLE14EX1LEaNU2ST4XX6LE4EX",
    "4LE3EX1LE3EX2LE7EX3LE4EXdLEcEX1LE1EXaNU4EX2XX26UP1XX1UP5XX1UP2XX2bLE1XX1LO14cLE1XX4LE2XX",
    "7LE1XX1LE1XX4LE2XX29LE1XX4LE2XX21LE1XX4LE2XX7LE1XX1LE1XX4LE2XXfLE1XX39LE1XX4LE2XX43LE2XX",
    "3EX2XX1ST4XX2ST17XX10LE10XX56UP2XX6LO3XX26cLE1XX1ST11LE1SP1aLE2CL3XX4bLE3XXbLE7XX12LE4EX",
    "9XX13LE3EX2ST9XX12LE2EXcXXdLE1XX3LE1XX2EXcXX34LE20EX2ST1XX1LE4XX1LE1EX2XXaNU18XX1SC1ST4XX",
    "1SC1ST1XX3EX1FO1EXaNU6XX59LE7XX5LE2EX22LE1EX1LE5XX46LEaXX1fLE1XXcEX4XXcEX8XX2STaNU1eLE2XX",
    "5LEbXX2cLE4XX1aLE6XXaNU26XX17LE5EX4XX35LEaEX1XX1dEX2XX1EXaNU6XXaNUdXX1LE4ST4XX1fEX31XX5EX",
    "2fLE11EX8LE1XX2STaNU2ST2XX2STbXX9EX9XX3ST3EX1eLEdEX2LEaNU2cLEeEXcXX24LE14EX3XX2ST3XXaNU3XX",
    "3LEaNU24LE2ST9LO1UP1LO5XX2bLE2XX3LE10XX3EX1XX15EX4LE1EX6LE1EX2LE3EX1LE5XXc0LO40EX1UP1LO1UP",
    "1LO1UP1LO1UP1LO1UP1LO1UP1LO1UP1LO1UP1LO1UP1LO1UP1LO1UP1LO1UP1LO1UP1LO1UP1LO1UP1LO1UP1LO1UP",
    "1LO1UP1LO1UP1LO1UP1LO1UP1LO1UP1LO1UP1LO1UP1LO1UP1LO1UP1LO1UP1LO1UP1LO1UP1LO1UP1LO1UP1LO1UP",
    "1LO1UP1LO1UP1LO1UP1LO1UP1LO1UP1LO1UP1LO1UP1LO1UP1LO1UP1LO1UP1LO1UP1LO1UP1LO1UP1LO1UP1LO1UP",
    "1LO1UP1LO1UP1LO1UP1LO1UP1LO1UP1LO1UP1LO1UP1LO1UP1LO1UP1LO1UP1LO1UP1LO1UP1LO1UP1LO1UP1LO1UP",
    "1LO1UP1LO1UP1LO1UP1LO1UP1LO1UP1LO1UP1LO1UP1LO1UP1LO1UP1LO1UP1LO1UP1LO1UP1LO1UP9LO1UP1LO1UP",
    "1LO1UP1LO1UP1LO1UP1LO1UP1LO1UP1LO1UP1LO1UP1LO1UP1LO1UP1LO1UP1LO1UP1LO1UP1LO1UP1LO1UP1LO1UP",
    "1LO1UP1LO1UP1LO1UP1LO1UP1LO1UP1LO1UP1LO1UP1LO1UP1LO1UP1LO1UP1LO1UP1LO1UP1LO1UP1LO1UP1LO1UP",
    "1LO1UP1LO1UP1LO1UP1LO1UP1LO1UP1LO1UP1LO1UP1LO1UP1LO1UP1LO1UP1LO1UP1LO1UP1LO1UP1LO1UP1LO1UP",
    "1LO1UP1LO1UP9LO8UP6LO2XX6UP2XX8LO8UP8LO8UP6LO2XX6UP2XX8LO1XX1UP1XX1UP1XX1UP1XX1UP8LO8UPeLO",
    "2XX8LO8UP8LO8UP8LO8UP5LO1XX2LO5UP1XX1LO3XX3LO1XX2LO5UP3XX4LO2XX2LO4UP4XX8LO5UP5XX3LO1XX2LO",
    "5UP3XXbSP1FO2EX2FO3XX2SC3XX8CL4XX1AT3XX2SE5FO1SP9XX2CL1XX2ST7XX2CL3ST15XX1SP5FO1XXaFO1XX",
    "1LObXX2CL1LOdXX2CL1XXdLO33XX21EX11XX1UP4XX1UP2XX1LO3UP2LO3UP1LO1XX1UP3XX5UP6XX1UP1XX1UP1XX",
    "1UP1XX4UP1XX1LO4UP1LO4LE1LO2XX2LO2UP5XX1UP4LO4XX1LO11XX10UP10LO3LE1UP1LO4LE17fXX4CL1dXX2CL",
    "18bXX1aUP1aLO271XX6CL7XXeCL4fXX2CL1fXXaCL193XX16CL3fXX4CL20XX2CL202XX30UP30LO1UP1LO3UP2LO",
    "1UP1LO1UP1LO1UP1LO4UP1LO1UP2LO1UP8LO3UP1LO1UP1LO1UP1LO1UP1LO1UP1LO1UP1LO1UP1LO1UP1LO1UP1LO",
    "1UP1LO1UP1LO1UP1LO1UP1LO1UP1LO1UP1LO1UP1LO1UP1LO1UP1LO1UP1LO1UP1LO1UP1LO1UP1LO1UP1LO1UP1LO",
    "1UP1LO1UP1LO1UP1LO1UP1LO1UP1LO1UP1LO1UP1LO1UP1LO1UP1LO1UP1LO1UP1LO1UP1LO1UP1LO1UP1LO1UP1LO",
    "1UP1LO1UP1LO1UP1LO1UP1LO1UP1LO1UP1LO1UP1LO1UP1LO1UP1LO1UP1LO1UP2LO6XX1UP1LO1UP1LO3EX1UP1LO",
    "5XX3ST4XX26LO1XX1LO5XX1LO2XX38LE7XX1LEfXX1EX17LE9XX7LE1XX7LE1XX7LE1XX7LE1XX7LE1XX7LE1XX7LE",
    "1XX7LE1XX20EXeCLeXX2CL2XXaCL4XX1ST1LEcXX1ST5XX1CL10XX2ST8CL1a3XX1SP1SC1ST2XX3LEaCL2XX8CL",
    "1XX3CL1XX9LE6EX1XX5LE2XX5LE4XX56LE2XX2EX2XX3LE1XX5aLE1XX4LE5XX2bLE1XX5eLE11XX20LE30XX10LE",
    "200XX19c0LE40XX568dLE43XX2eLE1XX1ST10dLE1XX2ST10LEaNU2LE14XX1UP1LO1UP1LO1UP1LO1UP1LO1UP1LO",
    "1UP1LO1UP1LO1UP1LO1UP1LO1UP1LO1UP1LO1UP1LO1UP1LO1UP1LO1UP1LO1UP1LO1UP1LO1UP1LO1UP1LO1UP1LO",
    "1UP1LO1UP1LO1UP1LO1LE4EX1XXaEX1XX1LE1UP1LO1UP1LO1UP1LO1UP1LO1UP1LO1UP1LO1UP1LO1UP1LO1UP1LO",
    "1UP1LO1UP1LO1UP1LO1UP1LO1UP3LO2EX50LE2EX1XX1ST3XX1ST1fXX9LE2XX1UP1LO1UP1LO1UP1LO1UP1LO1UP",
    "1LO1UP1LO1UP3LO1UP1LO1UP1LO1UP1LO1UP1LO1UP1LO1UP1LO1UP1LO1UP1LO1UP1LO1UP1LO1UP1LO1UP1LO1UP",
    "1LO1UP1LO1UP1LO1UP1LO1UP1LO1UP1LO1UP1LO1UP1LO1UP1LO1UP1LO1UP1LO1UP1LO1UP1LO1UP1LO1UP1LO1UP",
    "1LO1UP1LO1UP1LO1UPaLO1UP1LO1UP1LO2UP1LO1UP1LO1UP1LO1UP1LO1UP1LO1LE2XX1UP1LO1UP1LO1LE1UP1LO",
    "1UP3LO1UP1LO1UP1LO1UP1LO1UP1LO1UP1LO1UP1LO1UP1LO1UP1LO1UP1LO1UP1LO5UP1LO5UP1LO1UP1LO1UP1LO",
    "1UP1LO1UP1LO1UP1LO1UP1LO1UP1LO4UP1LO1UP1LO2UP1LO2XX1UP1LO1XX1LO1XX1LO1UP1LO1UP1LO1UP1LO1UP",
    "15XX3LO1UP1LO1LE3LO7LE1EX3LE1EX4LE1EX17LE5EX4XX1EX13XX34LE2XX2ST8XX2EX32LE12EX8XX2STaNU6XX",
    "12EX6LE3XX1LE1XX2LE1EXaNU1cLE8EX1XX1ST17LEdEXcXX1dLE3XX4EX2fLEeEX7XX2ST5XX1LEaNU6XX5LE1EX",
    "aLEaNU5LE1XX29LEeEX9XX3LE1EX8LE2EX2XXaNU3XX3ST17LE3XX1LE3EX32LE1EX1LE3EX2LE2EX5LE2EX1LE1EX",
    "1LE18XX3LE2XXbLE5EX2ST3LE2EXaXX6LE2XX6LE2XX6LE9XX7LE1XX7LE1XX2bLO1XXeLO6XX50LO23LE8EX1ST",
    "2EX2XXaNU6XX2ba4LEcXX17LE4XX31LE2104XX16eLE2XX6aLE26XX7LOcXX5LO5XX1LE1EXaLE1XXdLE1XX5LE1XX",
    "1LE1XX2LE1XX2LE1XX6cLE21XX16bLE2CL10XX40LE2XX36LE28XXcLE4XX10EX2SC1ST2SC2ST2CL7XX10EX1XX",
    "2SC2XX10CL2XX2CL7XX2SC1AT1XX2SC2ST1SC6CL4XX1SCcXX5LE1XX87LE2XX1FO1XX1ST6XX2CL2XX2SC1AT1XX",
    "aNU2SC3XX1ST1XX1aUP1CL1XX1CL3XX1aLO1CL1XX1CL1XX2CL1ST2CL1SC1XX38LE2EX1fLE3XX6LE2XX6LE2XX",
    "6LE2XX3LE1cXX3FO4XXcLE1XX1aLE1XX13LE1XX2LE1XXfLE2XXeLE22XX7bLE45XX35LE88XX1EX82XX1dLE3XX",
    "31LEfXX1EX1fXX20LEdXX1eLE5XX26LE5EX5XX1eLE2XX24LE4XX8LE1XX5LE2aXX28UP28LO4eLE2XXaNU6XX24UP",
    "4XX24LO4XX28LE8XX34LEcXXbUP1XXfUP1XX7UP1XX2UP1XXbLO1XXfLO1XX7LO1XX2LO3XX34LEcXX137LE9XX",
    "16LEaXX8LE18XX1LO2LE3LO1XX2aLO1XX9LO45XX6LE2XX1LE1XX2cLE1XX2LE3XX1LE2XX17LEaXX17LE9XX1fLE",
    "41XX13LE1XX2LEaXX16LEaXX1aLE46XX38LE6XX2LE40XX1LE3EX1XX2EX5XX4EX4LE1XX3LE1XX1dLE2XX3EX4XX",
    "1EX16XX2ST8XX1dLE3XX1dLE23XX8LE1XX1cLE2EX19XX36LEaXX16LEaXX13LEdXX12LE6eXX49LE37XX33UPdXX",
    "33LOdXX24LE4EX8XXaNU6XXaNU6LE16UP3XX5EX1XX1LE16LOfaXX2aLE1XX2EX3XX2LE10XX3LE37XX4EX1dLEaXX",
    "1LE8XX16LEbEX4XX5ST16XX12LE4EX4ST26XX15LE1bXX17LE9XX3EX35LEfEX2ST1dXXaNU1EX2LE2EX1LE9XX4EX",
    "2dLEbEX2XX1NU4ST1EXaXX1NU2XX19LE7XXaNU6XX3EX24LEeEX1XXaNU1XX3ST1LE2EX1LE8XX23LE1EX2XX1LE",
    "9XX3EX30LEeEX4LE2ST2XX4EX1ST2EXaNU1LE1XX1LE1XX2ST20XX12LE1XX19LEcEX2ST1XX2ST1XX1EX2LE1EX",
    "3eXX7LE1XX1LE1XX4LE1XXfLE1XXaLE1ST6XX2fLEcEX5XXaNU6XX4EX1XX8LE2XX2LE2XX16LE1XX7LE1XX2LE1XX",
    "5LE1XX2EX1LE7EX2XX2EX2XX3EX2XX1LE6XX1EX5XX5LE2EX2XX7EX3XX5EXbXXaLE1XX1LE2XX1LE1XX26LE1XX",
    "1LE9EX1XX1EX2XX1EX1XX4EX1XX5EX1LE1EX1LE2STbXX2EX1dXX35LE12EX4LE2ST3XXaNU4XX1EX3LE1eXX30LE",
    "14EX2LE1XX1LE8XXaNUa6XX2fLE7EX2XX9EX1XX2ST5XXfST4LE2EX22XX30LE11EX2ST1XX1LEbXXaNU26XX2bLE",
    "dEX1LE7XXaNU6XX14NU1cXX1bLE2XXfEX4XXaNU2XX3ST1XX7LEb9XX2cLEfEX65XX20UP20LOaNU15XX8LE2XX1LE",
    "2XX8LE1XX2LE1XX18LE6EX1XX2EX2XX4EX1LE1EX1LE2EX1ST1XX1ST9XXaNU46XX8LE2XX27LE7EX2XX7EX1LE1XX",
    "1LE1EX1bXX1LEaEX28LE7EX1LE4EX3XX2ST3XX1EX8XX1LEbEX2eLE10EX1XX2ST1LE12XX49LEc7XX21LEfXXaNU",
    "6XX9LE1XX25LE8EX1XX8EX1LE2STdXXaNU18XX1eLE2XX16EX1XXeEX49XX7LE1XX2LE1XX26LE6EX3XX1EX1XX2EX",
    "1XX7EX1LE1EX8XXaNU6XX6LE1XX2LE1XX20LE5EX1XX2EX1XX5EX1LE7XXaNU136XX13LE4EX2ST7XX2EX1LE1EX",
    "dLE1XX22LE7EX3XX5EX2STbXXaNU1EX55XX1LE4fXX39aLE66XX6fLE11XXc4LEa4cXX61LEfXX430LE10FO1EX6LE",
    "fEXaXXf9bLE5XX247LE1ab9XX1eLE12EXaNU6c6XX239LE7XX1fLE1XXaNU4XX2ST4fLE1XXaNU6XX1eLE2XX5EX",
    "1STaXX30LE7EX2ST7XX4LE1STbXXaNU9XX15LE5XX13LE1b0XX2dLE1XX2STaNUc6XX20UP20LO18XX1ST67XX4bLE",
    "4XX1EX1LE37EX7XX4EXdLE40XX2LE1XX1LE1EXbXX2EXeXX17f8LE8XX4d6LE29XXaLE22e7XX4LE1XX7LE1XX2LE",
    "1XX123LEfXX1LE1dXX3LE2XX1LEeXX4LE8XX18cLE904XX6bLE5XXdLE3XX9LE7XXaLE3XX2EX1ST4FO104cXXaNU",
    "206XX2eEX2XX17EX21eXX5EX3XX6EX8FO8EX2XX7EX1eXX4EX94XX3EX1bbXX1aUP1aLO1aUP7LO1XX12LO1aUP",
    "1aLO1UP1XX2UP2XX1UP2XX2UP2XX4UP1XX8UP4LO1XX1LO1XX7LO1XXbLO1aUP1aLO2UP1XX4UP2XX8UP1XX7UP1XX",
    "1aLO2UP1XX4UP1XX5UP1XX1UP3XX7UP1XX1aLO1aUP1aLO1aUP1aLO1aUP1aLO1aUP1aLO1aUP1aLO1aUP1cLO2XX",
    "19UP1XX19LO1XX6LO19UP1XX19LO1XX6LO19UP1XX19LO1XX6LO19UP1XX19LO1XX6LO19UP1XX19LO1XX6LO1UP",
    "1LO2XX32NU200XX37EX4XX32EX8XX1EXeXX1EX3XX1ST12XX5EX1XXfEX450XXaLO1LE14LO6XX6LOd5XX7EX1XX",
    "11EX2XX7EX1XX2EX1XX5EX5XX3eLO21XX1EX70XX2dLE3XX7EX7LE2XXaNU4XX1LE141XX1eLE1EX11XX2cLE4EX",
    "aNU1d6XX1cLE4EXaNUd6XX1eLE2EX1LEaNU1e5XX7LE1XX4LE1XX2LE1XXfLE1XXc5LEbXX7EX29XX22UP22LO7EX",
    "1LE4XXaNU4a6XX4LE1XX1bLE1XX2LE1XX1LE2XX1LE1XXaLE1XX4LE1XX1LE1XX1LE6XX1LE4XX1LE1XX1LE1XX1LE",
    "1XX3LE1XX2LE1XX1LE2XX1LE1XX1LE1XX1LE1XX1LE1XX1LE1XX2LE1XX1LE2XX4LE1XX7LE1XX4LE1XX4LE1XX1LE",
    "1XXaLE1XX11LE5XX3LE1XX5LE1XX11LE274XX1aUP6XX1aUP6XX1aUP4ecXX3CL577XXaNU406XXa6e0LE20XX",
    "103aLE6XXdeLE2XX1682LEeXX1d31LEfXX26eLE9a2XX21eLE5e2XX134bLE5XX1060LEadc51XX1FO1eXX60EX",
    "80XXf0EX2fe10XX"]

/-- The runs of equal class. -/
def table : BreakKind → RunTable String
  | .word => wordTable
  | .sentence => sentenceTable

/-- The class of a character. -/
def classOf (kind : BreakKind) (c : Char) : String :=
  (kind.table.lookup? c.toNat).getD "XX"

/-- The class with a given name. -/
def ofName? (kind : BreakKind) (name : String) : Option String :=
  (kind.names.find? fun entry => entry.2.contains name).map (·.1)

end BreakKind

end TrackBrowser.Unicode
