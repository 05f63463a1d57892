import Gamebook.Editor.Place
import Gamebook.Json.Basic
import Gamebook.Rules.Report

/-!
# Diagnostics

A diagnostic is a report as editors show it.  An editor may hand any diagnostic back, also one of
another tool, so everything but the range and the message may be missing.
-/

namespace Gamebook

/-- The code of a diagnostic; only texts are codes of rules. -/
inductive DiagnosticCode where
  | text (code : String)
  | number (code : Int)
deriving DecidableEq, Repr

structure RelatedPlace where
  location : Location
  message : String
deriving DecidableEq, Repr

structure Diagnostic where
  range : Range
  severity : Option Int := none
  code : Option DiagnosticCode := none
  explanation : Option Uri := none
  source : Option String := none
  message : String
  related : Option (List RelatedPlace) := none
  tags : Option (List Int) := none
  data : Option Json := none

def Severity.number : Severity → Nat
  | error => 1
  | warning => 2
  | info => 3
  | hint => 4

/-- The tool that the diagnostics of this library name as their source. -/
def diagnosticSource : String := languageId

namespace Diagnostic

def ofReport (source : Source) (report : Report) : Diagnostic :=
  { range := source.rangeOf report.span
    severity := some report.severity.number
    code := some (.text report.rule.code)
    source := some diagnosticSource
    message := report.message }

def isOf (diagnostic : Diagnostic) (rule : Rule) : Bool :=
  diagnostic.code = some (.text rule.code)

end Diagnostic

end Gamebook
