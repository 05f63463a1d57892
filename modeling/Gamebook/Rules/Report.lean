import Gamebook.Rules.Rule
import Gamebook.Script.Fault

/-!
# Reports

A violation says what is wrong and belongs to a rule.  A report is a violation at a place, with
the severity it is shown at.
-/

namespace Gamebook

/-- What a rule objects to. -/
inductive Violation where
  | fault (cause : FaultCause)
  | undeclaredVariable (name : String)
  | undeclaredLabel (name : String)
  | unresolvedScene (name : String)
  | unresolvedSceneLabel (name scene : String)
  | undeclaredAchievement (name : String)
  | duplicateLabel (name : String) (line : Nat)
  /-- A variable declared before, on the line with the given number. -/
  | duplicateVariable (name : String) (line : Nat)
  | createOutsideStartup
  | unreachableCode
  | unknownWord (word : String)
deriving DecidableEq, Repr

def FaultCause.rule : FaultCause → Rule
  | unknownCommand _ => .unknownCommand
  | emptyBlock _ => .emptyBlock
  | unexpectedIndent | inconsistentIndent => .indentation
  | _ => .malformedCommand

namespace Violation

def rule : Violation → Rule
  | fault cause => cause.rule
  | undeclaredVariable _ => .undeclaredVariable
  | undeclaredLabel _ => .undeclaredLabel
  | unresolvedScene _ => .unresolvedScene
  | unresolvedSceneLabel .. => .unresolvedSceneLabel
  | undeclaredAchievement _ => .undeclaredAchievement
  | duplicateLabel .. => .duplicateLabel
  | duplicateVariable .. => .duplicateVariable
  | createOutsideStartup => .createOutsideStartup
  | unreachableCode => .unreachableCode
  | unknownWord _ => .badSpelling

/-- The message shown; lines are counted from one. -/
def message : Violation → String
  | fault cause => cause.message
  | undeclaredVariable name => s!"Variable '{name}' is not declared"
  | undeclaredLabel name => s!"Label '{name}' does not exist in this scene"
  | unresolvedScene name => s!"Scene '{name}' does not exist"
  | unresolvedSceneLabel name scene => s!"Label '{name}' does not exist in scene '{scene}'"
  | undeclaredAchievement name => s!"Achievement '{name}' is not declared"
  | duplicateLabel name line => s!"Label '{name}' is already declared on line {line + 1}"
  | duplicateVariable name line => s!"Variable '{name}' is already declared on line {line + 1}"
  | createOutsideStartup => "'*create' is only allowed in startup.txt; use '*temp' instead"
  | unreachableCode => "Unreachable code"
  | unknownWord word => s!"Unknown word '{word}'"

end Violation

structure Report where
  violation : Violation
  span : Span
  severity : Severity
deriving DecidableEq, Repr

namespace Report

/-- A report at the severity its rule has by default. -/
def ofViolation (violation : Violation) (span : Span) : Report :=
  ⟨violation, span, violation.rule.severity⟩

def rule (report : Report) : Rule :=
  report.violation.rule

def message (report : Report) : String :=
  report.violation.message

/-- The report as the options want it shown; none when its rule is off. -/
def adjust? (options : ValidationOptions) (report : Report) : Option Report :=
  (options.severityFor report.rule).map fun severity => { report with severity }

def render (report : Report) : String :=
  s!"[{report.rule.code}] {report.message}"

end Report

end Gamebook
