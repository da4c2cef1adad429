import TextTemplate.Problem

set_option autoImplicit false

/-! # Diagnostics

A diagnostic is a problem as it was recorded: how serious it was taken, and on whose behalf. A log is the
list of diagnostics in the order of recording; recording appends to it and never looks at it. -/

namespace TextTemplate

/-- A recorded problem. The reporter is the function or the operator that the problem belongs to; it is
empty for the engine itself. -/
structure Diagnostic where
  severity : Severity
  reporter : String
  problem : Problem
deriving BEq, DecidableEq, Repr

namespace Diagnostic

/-- Where the diagnostic comes from, as shown in front of its message. -/
def origin (diagnostic : Diagnostic) : String :=
  if diagnostic.reporter = "" then "templar" else s!"templar:{diagnostic.reporter}"

/-- The diagnostic on one line. -/
def text (diagnostic : Diagnostic) : String :=
  s!"[{diagnostic.origin}] {diagnostic.problem.message}"

/-- A problem of the parser, recorded by the engine with the severity of its fault. -/
def ofParse (problem : ParseProblem) : Diagnostic := ⟨problem.severity, "", .parse problem⟩

/-- A runtime problem taken as a warning. -/
def warning (reporter : String) (problem : RuntimeProblem) : Diagnostic :=
  ⟨.warning, reporter, .runtime problem⟩

/-- A runtime problem taken as an error. -/
def error (reporter : String) (problem : RuntimeProblem) : Diagnostic :=
  ⟨.error, reporter, .runtime problem⟩

/-- A runtime problem that evaluation itself found. -/
def ofRuntime (problem : RuntimeProblem) : Diagnostic := ⟨problem.severity, "", .runtime problem⟩

end Diagnostic

/-- The diagnostics recorded so far, oldest first. -/
abbrev Log := List Diagnostic

/-- Whether a log holds an error. -/
def Log.hasErrors (log : Log) : Bool := log.any fun diagnostic => diagnostic.severity == .error

end TextTemplate
