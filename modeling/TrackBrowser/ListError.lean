/-
Module: TrackBrowser.ListError
Purpose: Why an operation on a list fails.
-/
import TrackBrowser.Pattern.Error
import TrackBrowser.Text.Digits

namespace TrackBrowser

/-- The failures of list operations.  None is fatal: they end up in the status line. -/
inductive ListError where
  | notFound
  | outOfRange (index length : Nat)
  | readOnly
  | invalidPattern (pattern : String) (cause : Pattern.PatternError)
  deriving DecidableEq, Repr, Inhabited

/-- The words in which a failure is reported. -/
def ListError.message : ListError → String
  | .notFound => "pattern not found"
  | .outOfRange index length =>
    "index " ++ Text.decimal index ++ " out of range for list of " ++ Text.decimal length
  | .readOnly => "list is read-only"
  | .invalidPattern pattern cause => "invalid pattern: " ++ cause.report pattern

end TrackBrowser
