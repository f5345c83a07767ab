/-
Module: TrackBrowser.Pattern.Error
Purpose: Why a text is not a usable regular expression.
-/

namespace TrackBrowser.Pattern

/-- The reasons for which a text is refused as a regular expression. -/
inductive PatternError where
  | unclosedGroup
  | unopenedGroup
  | lookAround
  | invalidGroupName
  | duplicateGroupName
  | invalidFlags
  | nothingToRepeat
  | invalidRepetition
  | invalidEscape
  | backreference
  | unknownProperty
  | unclosedClass
  | invalidClassItem
  | invalidClassRange
  | unicodeNotAllowed
  | invalidUtf8
  | tooDeeplyNested
  | tooLarge
  deriving DecidableEq, Repr, Inhabited

namespace PatternError

/-- The reason in words. -/
def reason : PatternError → String
  | .unclosedGroup => "unclosed group"
  | .unopenedGroup => "unopened group"
  | .lookAround => "look-around, including look-ahead and look-behind, is not supported"
  | .invalidGroupName => "invalid capture group name"
  | .duplicateGroupName => "duplicate capture group name"
  | .invalidFlags => "invalid flags"
  | .nothingToRepeat => "repetition operator missing expression"
  | .invalidRepetition => "invalid repetition count"
  | .invalidEscape => "unrecognized escape sequence"
  | .backreference => "backreferences are not supported"
  | .unknownProperty => "Unicode property not found"
  | .unclosedClass => "unclosed character class"
  | .invalidClassItem => "invalid escape sequence found in character class"
  | .invalidClassRange => "invalid character class range, the start must be <= the end"
  | .unicodeNotAllowed => "Unicode not allowed here"
  | .invalidUtf8 => "pattern can match invalid UTF-8"
  | .tooDeeplyNested => "exceed the maximum number of nested parentheses/brackets (250)"
  | .tooLarge => "Compiled regex exceeds size limit of 10485760 bytes."

/-- The report on a refused expression.  An expression that cannot be read is repeated under a
heading of its own. -/
def report (expression : String) (error : PatternError) : String :=
  match error with
  | .tooLarge => error.reason
  | _ => "regex parse error:\n    " ++ expression ++ "\nerror: " ++ error.reason

end PatternError

end TrackBrowser.Pattern
