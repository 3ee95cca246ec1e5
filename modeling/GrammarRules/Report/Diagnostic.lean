import GrammarRules.Rule.Error

/-!
# Diagnostics

A `Diagnostic` is what a report says about a fault: how severe it is, a code, a headline, advice and
a place.  `Diagnostic.ofError` makes one of a compile error.  Because the report shows the place on
a line of its own, the headline is the printed error without the location at its end.
-/

namespace GrammarRules

/-- How bad a fault is. -/
inductive Severity where
  | error
  | warning
  | info
  | hint
deriving DecidableEq, Inhabited

namespace Severity

/-- Whether it is an error. -/
def isError : Severity → Bool
  | error => true
  | _ => false

/-- The word for it. -/
def name : Severity → String
  | error => "error"
  | warning => "warning"
  | info => "info"
  | hint => "hint"

end Severity

/-- What there is to report about a fault. -/
structure Diagnostic where
  severity : Severity
  code : String
  message : String
  /-- Advice, or nothing. -/
  help : String
  span : Option Span
deriving DecidableEq, Inhabited

/-- What stands before the last occurrence of `mark` in a text. -/
def beforeLast? (mark : List Char) : List Char → Option (List Char)
  | [] => none
  | c :: cs =>
    match beforeLast? mark cs with
    | some before => some (c :: before)
    | none => if mark.isPrefixOf (c :: cs) then some [] else none

/-- A printed error without the location at its end. -/
def headline (text : String) : String :=
  ((beforeLast? " (line ".toList text.toList).map String.ofList).getD text

namespace Diagnostic

/-- The report of a compile error. -/
def ofError (error : RuleError) : Diagnostic where
  severity := .error
  code := error.cause.code
  message := headline error.text
  help := error.cause.help?.getD ""
  span := if error.position.isUnknown then none else some (.point error.position)

/-- The first words of a report. -/
def label (d : Diagnostic) : String := s!"{d.severity.name}[{d.code}]"

/-- The diagnostic on one line. -/
def text (d : Diagnostic) : String := s!"{d.label}: {d.message}"

end Diagnostic

end GrammarRules
