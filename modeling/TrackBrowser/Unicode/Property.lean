/-
Module: TrackBrowser.Unicode.Property
Purpose: The two-valued properties of characters and their names.
-/
import TrackBrowser.Unicode.Category
import TrackBrowser.Unicode.PropertyTables

namespace TrackBrowser.Unicode

/-- The two-valued properties of characters. -/
inductive Property where
  | alphabetic
  | asciiHexDigit
  | bidiControl
  | bidiMirrored
  | caseIgnorable
  | cased
  | changesWhenCasefolded
  | changesWhenCasemapped
  | changesWhenLowercased
  | changesWhenTitlecased
  | changesWhenUppercased
  | dash
  | defaultIgnorableCodePoint
  | deprecated
  | diacritic
  | emoji
  | emojiComponent
  | emojiModifier
  | emojiModifierBase
  | emojiPresentation
  | extendedPictographic
  | extender
  | graphemeBase
  | graphemeExtend
  | graphemeLink
  | hexDigit
  | hyphen
  | idCompatMathContinue
  | idCompatMathStart
  | idContinue
  | idStart
  | ideographic
  | idsBinaryOperator
  | idsTrinaryOperator
  | idsUnaryOperator
  | joinControl
  | logicalOrderException
  | lowercase
  | math
  | modifierCombiningMark
  | noncharacterCodePoint
  | otherAlphabetic
  | otherDefaultIgnorableCodePoint
  | otherGraphemeExtend
  | otherIdContinue
  | otherIdStart
  | otherLowercase
  | otherMath
  | otherUppercase
  | patternSyntax
  | patternWhiteSpace
  | prependedConcatenationMark
  | quotationMark
  | radical
  | regionalIndicator
  | sentenceTerminal
  | softDotted
  | terminalPunctuation
  | unifiedIdeograph
  | uppercase
  | variationSelector
  | whiteSpace
  | xidContinue
  | xidStart
  deriving DecidableEq, Repr, Inhabited

namespace Property

/-- Every property with its names, in lower case and without separators. -/
def names : List (Property × List String) :=
  [(.alphabetic, ["alphabetic", "alpha"]),
   (.asciiHexDigit, ["asciihexdigit", "ahex"]),
   (.bidiControl, ["bidicontrol", "bidic"]),
   (.bidiMirrored, ["bidimirrored", "bidim"]),
   (.caseIgnorable, ["caseignorable", "ci"]),
   (.cased, ["cased"]),
   (.changesWhenCasefolded, ["changeswhencasefolded", "cwcf"]),
   (.changesWhenCasemapped, ["changeswhencasemapped", "cwcm"]),
   (.changesWhenLowercased, ["changeswhenlowercased", "cwl"]),
   (.changesWhenTitlecased, ["changeswhentitlecased", "cwt"]),
   (.changesWhenUppercased, ["changeswhenuppercased", "cwu"]),
   (.dash, ["dash"]),
   (.defaultIgnorableCodePoint, ["defaultignorablecodepoint", "di"]),
   (.deprecated, ["deprecated", "dep"]),
   (.diacritic, ["diacritic", "dia"]),
   (.emoji, ["emoji"]),
   (.emojiComponent, ["emojicomponent", "ecomp"]),
   (.emojiModifier, ["emojimodifier", "emod"]),
   (.emojiModifierBase, ["emojimodifierbase", "ebase"]),
   (.emojiPresentation, ["emojipresentation", "epres"]),
   (.extendedPictographic, ["extendedpictographic", "extpict"]),
   (.extender, ["extender", "ext"]),
   (.graphemeBase, ["graphemebase", "grbase"]),
   (.graphemeExtend, ["graphemeextend", "grext"]),
   (.graphemeLink, ["graphemelink", "grlink"]),
   (.hexDigit, ["hexdigit", "hex"]),
   (.hyphen, ["hyphen"]),
   (.idCompatMathContinue, ["idcompatmathcontinue"]),
   (.idCompatMathStart, ["idcompatmathstart"]),
   (.idContinue, ["idcontinue", "idc"]),
   (.idStart, ["idstart", "ids"]),
   (.ideographic, ["ideographic", "ideo"]),
   (.idsBinaryOperator, ["idsbinaryoperator", "idsb"]),
   (.idsTrinaryOperator, ["idstrinaryoperator", "idst"]),
   (.idsUnaryOperator, ["idsunaryoperator", "idsu"]),
   (.joinControl, ["joincontrol", "joinc"]),
   (.logicalOrderException, ["logicalorderexception", "loe"]),
   (.lowercase, ["lowercase", "lower"]),
   (.math, ["math"]),
   (.modifierCombiningMark, ["modifiercombiningmark", "mcm"]),
   (.noncharacterCodePoint, ["noncharactercodepoint", "nchar"]),
   (.otherAlphabetic, ["otheralphabetic", "oalpha"]),
   (.otherDefaultIgnorableCodePoint, ["otherdefaultignorablecodepoint", "odi"]),
   (.otherGraphemeExtend, ["othergraphemeextend", "ogrext"]),
   (.otherIdContinue, ["otheridcontinue", "oidc"]),
   (.otherIdStart, ["otheridstart", "oids"]),
   (.otherLowercase, ["otherlowercase", "olower"]),
   (.otherMath, ["othermath", "omath"]),
   (.otherUppercase, ["otheruppercase", "oupper"]),
   (.patternSyntax, ["patternsyntax", "patsyn"]),
   (.patternWhiteSpace, ["patternwhitespace", "patws"]),
   (.prependedConcatenationMark, ["prependedconcatenationmark", "pcm"]),
   (.quotationMark, ["quotationmark", "qmark"]),
   (.radical, ["radical"]),
   (.regionalIndicator, ["regionalindicator", "ri"]),
   (.sentenceTerminal, ["sentenceterminal", "sterm"]),
   (.softDotted, ["softdotted", "sd"]),
   (.terminalPunctuation, ["terminalpunctuation", "term"]),
   (.unifiedIdeograph, ["unifiedideograph", "uideo"]),
   (.uppercase, ["uppercase", "upper"]),
   (.variationSelector, ["variationselector", "vs"]),
   (.whiteSpace, ["whitespace", "wspace", "space"]),
   (.xidContinue, ["xidcontinue", "xidc"]),
   (.xidStart, ["xidstart", "xids"])]

/-- Whether a character has a property.  The `Other_` properties are what the corresponding
property adds to the categories it is based on. -/
def holds : Property → Char → Bool
  | .alphabetic, c => PropertyTables.alphabetic.contains c.toNat
  | .asciiHexDigit, c => PropertyTables.asciiHexDigit.contains c.toNat
  | .bidiControl, c => PropertyTables.bidiControl.contains c.toNat
  | .bidiMirrored, c => PropertyTables.bidiMirrored.contains c.toNat
  | .caseIgnorable, c => PropertyTables.caseIgnorable.contains c.toNat
  | .cased, c => PropertyTables.cased.contains c.toNat
  | .changesWhenCasefolded, c => PropertyTables.changesWhenCasefolded.contains c.toNat
  | .changesWhenCasemapped, c => PropertyTables.changesWhenCasemapped.contains c.toNat
  | .changesWhenLowercased, c => PropertyTables.changesWhenLowercased.contains c.toNat
  | .changesWhenTitlecased, c => PropertyTables.changesWhenTitlecased.contains c.toNat
  | .changesWhenUppercased, c => PropertyTables.changesWhenUppercased.contains c.toNat
  | .dash, c => PropertyTables.dash.contains c.toNat
  | .defaultIgnorableCodePoint, c => PropertyTables.defaultIgnorableCodePoint.contains c.toNat
  | .deprecated, c => PropertyTables.deprecated.contains c.toNat
  | .diacritic, c => PropertyTables.diacritic.contains c.toNat
  | .emoji, c => PropertyTables.emoji.contains c.toNat
  | .emojiComponent, c => PropertyTables.emojiComponent.contains c.toNat
  | .emojiModifier, c => PropertyTables.emojiModifier.contains c.toNat
  | .emojiModifierBase, c => PropertyTables.emojiModifierBase.contains c.toNat
  | .emojiPresentation, c => PropertyTables.emojiPresentation.contains c.toNat
  | .extendedPictographic, c => PropertyTables.extendedPictographic.contains c.toNat
  | .extender, c => PropertyTables.extender.contains c.toNat
  | .graphemeBase, c => PropertyTables.graphemeBase.contains c.toNat
  | .graphemeExtend, c => PropertyTables.graphemeExtend.contains c.toNat
  | .graphemeLink, c => PropertyTables.graphemeLink.contains c.toNat
  | .hexDigit, c => PropertyTables.hexDigit.contains c.toNat
  | .hyphen, c => PropertyTables.hyphen.contains c.toNat
  | .idCompatMathContinue, c => PropertyTables.idCompatMathContinue.contains c.toNat
  | .idCompatMathStart, c => PropertyTables.idCompatMathStart.contains c.toNat
  | .idContinue, c => PropertyTables.idContinue.contains c.toNat
  | .idStart, c => PropertyTables.idStart.contains c.toNat
  | .ideographic, c => PropertyTables.ideographic.contains c.toNat
  | .idsBinaryOperator, c => PropertyTables.idsBinaryOperator.contains c.toNat
  | .idsTrinaryOperator, c => PropertyTables.idsTrinaryOperator.contains c.toNat
  | .idsUnaryOperator, c => PropertyTables.idsUnaryOperator.contains c.toNat
  | .joinControl, c => PropertyTables.joinControl.contains c.toNat
  | .logicalOrderException, c => PropertyTables.logicalOrderException.contains c.toNat
  | .lowercase, c => PropertyTables.lowercase.contains c.toNat
  | .math, c => PropertyTables.math.contains c.toNat
  | .modifierCombiningMark, c => PropertyTables.modifierCombiningMark.contains c.toNat
  | .noncharacterCodePoint, c => PropertyTables.noncharacterCodePoint.contains c.toNat
  | .otherAlphabetic, c =>
    PropertyTables.alphabetic.contains c.toNat &&
      !((Category.members "L" ++ [Category.letterNumber]).contains (category c))
  | .otherDefaultIgnorableCodePoint, c =>
    PropertyTables.otherDefaultIgnorableCodePoint.contains c.toNat
  | .otherGraphemeExtend, c =>
    PropertyTables.graphemeExtend.contains c.toNat &&
      !([Category.nonspacingMark, .enclosingMark].contains (category c))
  | .otherIdContinue, c => PropertyTables.otherIdContinue.contains c.toNat
  | .otherIdStart, c => PropertyTables.otherIdStart.contains c.toNat
  | .otherLowercase, c =>
    PropertyTables.lowercase.contains c.toNat && category c != .lowercaseLetter
  | .otherMath, c => PropertyTables.math.contains c.toNat && category c != .mathSymbol
  | .otherUppercase, c =>
    PropertyTables.uppercase.contains c.toNat && category c != .uppercaseLetter
  | .patternSyntax, c => PropertyTables.patternSyntax.contains c.toNat
  | .patternWhiteSpace, c => PropertyTables.patternWhiteSpace.contains c.toNat
  | .prependedConcatenationMark, c => PropertyTables.prependedConcatenationMark.contains c.toNat
  | .quotationMark, c => PropertyTables.quotationMark.contains c.toNat
  | .radical, c => PropertyTables.radical.contains c.toNat
  | .regionalIndicator, c => PropertyTables.regionalIndicator.contains c.toNat
  | .sentenceTerminal, c => PropertyTables.sentenceTerminal.contains c.toNat
  | .softDotted, c => PropertyTables.softDotted.contains c.toNat
  | .terminalPunctuation, c => PropertyTables.terminalPunctuation.contains c.toNat
  | .unifiedIdeograph, c => PropertyTables.unifiedIdeograph.contains c.toNat
  | .uppercase, c => PropertyTables.uppercase.contains c.toNat
  | .variationSelector, c => PropertyTables.variationSelector.contains c.toNat
  | .whiteSpace, c => PropertyTables.whiteSpace.contains c.toNat
  | .xidContinue, c => PropertyTables.xidContinue.contains c.toNat
  | .xidStart, c => PropertyTables.xidStart.contains c.toNat

end Property

end TrackBrowser.Unicode
