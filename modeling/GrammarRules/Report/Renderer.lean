import GrammarRules.Report.Diagnostic
import GrammarRules.Source.File

/-!
# Rendering diagnostics

A report has a header, then the place and the source line with carets under it, then the advice.
`RenderOptions` says which of these to show and whether to use colors.
-/

namespace GrammarRules

/-- What a report shows. -/
structure RenderOptions where
  colors : Bool := true
  source : Bool := true
  help : Bool := true
deriving DecidableEq, Inhabited

namespace RenderOptions

/-- A text between two escape sequences of a terminal, given by their numbers. -/
def escaped (first last : Nat) (text : String) : String := s!"\x1b[{first}m{text}\x1b[{last}m"

/-- Bold text, with colors on. -/
def bold (options : RenderOptions) (text : String) : String :=
  if options.colors then escaped 1 0 text else text

/-- Text in the color of a severity, with colors on. -/
def paint (options : RenderOptions) (severity : Severity) (text : String) : String :=
  if options.colors then
    match severity with
    | .error => escaped 1 0 (escaped 31 39 text)
    | .warning => escaped 1 0 (escaped 33 39 text)
    | .info => escaped 34 39 text
    | .hint => escaped 36 39 text
  else text

end RenderOptions

/-- A number of equal characters. -/
def repeated (count : Nat) (c : Char) : String := String.ofList (List.replicate count c)

/-- A text with spaces before it that bring it to a width. -/
def alignRight (width : Nat) (text : String) : String :=
  repeated (width - text.length) ' ' ++ text

/-- A text with spaces after it that bring it to a width. -/
def alignLeft (width : Nat) (text : String) : String :=
  text ++ repeated (width - text.length) ' '

namespace Diagnostic

/-- The place of a diagnostic, if it has one in a source. -/
def place? (d : Diagnostic) : Option Span := d.span.filter (!·.isUnknown)

/-- The line with code and message. -/
def header (options : RenderOptions) (d : Diagnostic) : String :=
  s!"{options.paint d.severity d.label}: {options.bold d.message}\n"

/-- The line with the place. -/
def locationLine (source : Option SourceFile) (place : Span) : String :=
  let name := (source.map SourceFile.name).getD "<unknown>"
  s!" --> {name}:{place.start.line}:{place.start.column}\n"

/-- The source line, with its number in front. -/
def sourceLine (number : Nat) (text : String) : String :=
  s!"{alignRight 4 (toString number)} | {text}\n"

/-- The carets under a source line. -/
def caretLine (options : RenderOptions) (severity : Severity) (place : Span) : String :=
  let carets := repeated (max 1 (place.stop.column - place.start.column)) '^'
  let indent := repeated (place.start.column - 1) ' '
  alignRight 4 "" ++ " | " ++ indent ++ options.paint severity carets ++ "\n"

/-- The source line with its carets, if the source has such a line. -/
def snippet (options : RenderOptions) (d : Diagnostic) (source : Option SourceFile)
    (place : Span) : String :=
  match source.bind (·.line? place.start.line) with
  | some text =>
    sourceLine place.start.line text ++ caretLine options d.severity place
  | none => ""

/-- The line with the advice, if there is any. -/
def helpLine (options : RenderOptions) (d : Diagnostic) : String :=
  let label := options.bold "help"
  if d.help == "" then "" else alignRight 4 "" ++ s!" = {label}: {d.help}\n"

/-- The whole report. -/
def render (options : RenderOptions) (d : Diagnostic) (source : Option SourceFile) : String :=
  let location :=
    match d.place? with
    | some place =>
      if options.source then locationLine source place ++ d.snippet options source place else ""
    | none => ""
  d.header options ++ location ++ if options.help then d.helpLine options else ""

end Diagnostic

end GrammarRules
