import DartBindings.Source

/-!
Diagnostics: what a run of the generator has to say about its input.

A warning never stops a run; an error stops it before anything is written.  A diagnostic has a kind,
perhaps a detail that its message names, perhaps a subject, and perhaps a place in a source.

Main exports: DiagnosticKind, Severity, Diagnostic, Diagnostics.errorCount
-/

namespace DartBindings

/-- What a diagnostic is about, in the order of the stages that find it. -/
inductive DiagnosticKind where
  | syntaxError
  | overloadDropped
  | unresolvedClass
  | unresolvedInterface
  | unresolvedPlaceholder
  | invalidOptionalParameters
deriving Repr, DecidableEq, Inhabited

/-- How serious a diagnostic is. -/
inductive Severity where
  | error
  | warning
deriving Repr, DecidableEq, Inhabited

/-- The word for a severity. -/
def Severity.word : Severity → String
  | .error => "error"
  | .warning => "warning"

namespace DiagnosticKind

/-- All kinds in order. -/
def all : List DiagnosticKind :=
  [.syntaxError, .overloadDropped, .unresolvedClass, .unresolvedInterface, .unresolvedPlaceholder,
    .invalidOptionalParameters]

/-- The name of a kind. -/
def name : DiagnosticKind → String
  | .syntaxError => "SyntaxError"
  | .overloadDropped => "OverloadDropped"
  | .unresolvedClass => "UnresolvedClass"
  | .unresolvedInterface => "UnresolvedInterface"
  | .unresolvedPlaceholder => "UnresolvedPlaceholder"
  | .invalidOptionalParameters => "InvalidOptionalParameters"

/-- Only misplaced optional parameters are an error. -/
def severity : DiagnosticKind → Severity
  | .invalidOptionalParameters => .error
  | .syntaxError | .overloadDropped | .unresolvedClass | .unresolvedInterface
  | .unresolvedPlaceholder => .warning

/-- The message without a detail. -/
def plainMessage : DiagnosticKind → String
  | .syntaxError => "syntax error in declaration file"
  | .overloadDropped => "overloaded signature dropped"
  | .unresolvedClass => "class not found"
  | .unresolvedInterface => "interface not found"
  | .unresolvedPlaceholder => "placeholder not bound by pattern"
  | .invalidOptionalParameters => "optional parameters must form a trailing group"

/-- The message around a detail: what stands in front of it, and what stands behind it. -/
def frame : DiagnosticKind → String × String
  | .syntaxError => ("syntax error in declaration file: ", "")
  | .overloadDropped => ("overload of `", "` dropped; only the first signature is kept")
  | .unresolvedClass => ("class `", "` not found")
  | .unresolvedInterface => ("interface `", "` not found")
  | .unresolvedPlaceholder => ("`", "` does not occur in its pattern")
  | .invalidOptionalParameters =>
      ("`", "` mixes required and optional parameters outside a trailing group")

/-- The message with a detail in its frame. -/
def framed (kind : DiagnosticKind) (detail : String) : String :=
  kind.frame.1 ++ detail ++ kind.frame.2

/-- The message with a pair of braces where the detail goes. -/
def template (kind : DiagnosticKind) : String :=
  kind.framed "\x7b\x7d"

/-- The message of a kind and perhaps a detail. -/
def message (kind : DiagnosticKind) : Option String → String
  | none => kind.plainMessage
  | some detail => kind.framed detail

end DiagnosticKind

/-- A diagnostic. -/
structure Diagnostic where
  kind : DiagnosticKind
  detail : Option String := none
  subject : Option String := none
  span : Option Span := none
deriving Repr, DecidableEq, Inhabited

namespace Diagnostic

/-- The severity of its kind. -/
def severity (diagnostic : Diagnostic) : Severity :=
  diagnostic.kind.severity

/-- Whether it is an error. -/
def isError (diagnostic : Diagnostic) : Bool :=
  diagnostic.severity == .error

/-- Whether it is a warning. -/
def isWarning (diagnostic : Diagnostic) : Bool :=
  diagnostic.severity == .warning

/-- The message, which does not name the subject. -/
def message (diagnostic : Diagnostic) : String :=
  diagnostic.kind.message diagnostic.detail

/-- The words that name a subject. -/
def subjectWords (subject : String) : String :=
  "in `" ++ subject ++ "`"

/-- The diagnostic on one line: severity, message and subject. -/
def line (diagnostic : Diagnostic) : String :=
  diagnostic.severity.word ++ ": " ++ diagnostic.message ++
    match diagnostic.subject with
    | none => ""
    | some subject => " (" ++ subjectWords subject ++ ")"

end Diagnostic

/-- Diagnostics in the order in which they were reported. -/
abbrev Diagnostics := List Diagnostic

namespace Diagnostics

/-- How many errors there are. -/
def errorCount (diagnostics : Diagnostics) : Nat :=
  List.countP Diagnostic.isError diagnostics

/-- How many warnings there are. -/
def warningCount (diagnostics : Diagnostics) : Nat :=
  List.countP Diagnostic.isWarning diagnostics

/-- Whether there is an error. -/
def hasErrors (diagnostics : Diagnostics) : Bool :=
  List.any diagnostics Diagnostic.isError

/-- Whether there is a warning. -/
def hasWarnings (diagnostics : Diagnostics) : Bool :=
  List.any diagnostics Diagnostic.isWarning

end Diagnostics

end DartBindings
