/-!
# Rules and their levels

Every report comes from a rule.  A rule has a stable code and a level at which it reports, which
the settings may change; three rules are lints, which can be switched off together.
-/

namespace Gamebook

inductive Severity where
  | error
  | warning
  | info
  | hint
deriving DecidableEq, Repr

/-- The configured level of a rule. -/
inductive Level where
  | ignore
  | hint
  | info
  | warning
  | error
deriving DecidableEq, Repr

namespace Severity

def name : Severity → String
  | error => "error"
  | warning => "warning"
  | info => "info"
  | hint => "hint"

def level : Severity → Level
  | error => .error
  | warning => .warning
  | info => .info
  | hint => .hint

end Severity

namespace Level

def all : List Level :=
  [ignore, hint, info, warning, error]

def name : Level → String
  | ignore => "ignore"
  | hint => "hint"
  | info => "info"
  | warning => "warning"
  | error => "error"

def find? (name : String) : Option Level :=
  all.find? (·.name == name)

/-- The severity to report at; none to report nothing. -/
def severity? : Level → Option Severity
  | ignore => none
  | hint => some .hint
  | info => some .info
  | warning => some .warning
  | error => some .error

end Level

inductive Rule where
  | undeclaredVariable
  | undeclaredLabel
  | unresolvedScene
  | unresolvedSceneLabel
  | undeclaredAchievement
  | duplicateLabel
  | duplicateVariable
  | unreachableCode
  | malformedCommand
  | unknownCommand
  | emptyBlock
  | indentation
  | createOutsideStartup
  | badSpelling
deriving DecidableEq, Repr

namespace Rule

def all : List Rule :=
  [undeclaredVariable, undeclaredLabel, unresolvedScene, unresolvedSceneLabel,
    undeclaredAchievement, duplicateLabel, duplicateVariable, unreachableCode, malformedCommand,
    unknownCommand, emptyBlock, indentation, createOutsideStartup, badSpelling]

theorem mem_all (rule : Rule) : rule ∈ all := by
  cases rule <;> decide

/-- The stable code of the rule. -/
def code : Rule → String
  | undeclaredVariable => "undeclaredVariable"
  | undeclaredLabel => "undeclaredLabel"
  | unresolvedScene => "unresolvedScene"
  | unresolvedSceneLabel => "unresolvedSceneLabel"
  | undeclaredAchievement => "undeclaredAchievement"
  | duplicateLabel => "duplicateLabel"
  | duplicateVariable => "duplicateVariable"
  | unreachableCode => "unreachableCode"
  | malformedCommand => "malformedCommand"
  | unknownCommand => "unknownCommand"
  | emptyBlock => "emptyBlock"
  | indentation => "indentation"
  | createOutsideStartup => "createOutsideStartup"
  | badSpelling => "badSpelling"

def find? (code : String) : Option Rule :=
  all.find? (·.code == code)

/-- Whether the rule is a matter of style. -/
def isLint : Rule → Bool
  | unreachableCode | duplicateVariable | indentation => true
  | _ => false

def severity : Rule → Severity
  | duplicateVariable | unreachableCode | indentation => .warning
  | badSpelling => .info
  | _ => .error

/-- The rules whose level can be configured: all but spelling. -/
def configurable : List Rule :=
  all.filter (· != badSpelling)

end Rule

instance (property : Rule → Prop) [DecidablePred property] : Decidable (∀ rule, property rule) :=
  decidable_of_iff (∀ rule ∈ Rule.all, property rule)
    ⟨fun holds rule => holds rule (Rule.mem_all rule), fun holds rule _ => holds rule⟩

instance : DecidableEq (Rule → Level) := fun first second =>
  decidable_of_iff (∀ rule, first rule = second rule)
    ⟨funext, fun equal rule => congrFun equal rule⟩

/-- The level of each rule, and whether lints run at all. -/
structure LintOptions where
  enabled : Bool := true
  level : Rule → Level := fun rule => rule.severity.level
deriving DecidableEq

namespace LintOptions

def setLevel (options : LintOptions) (rule : Rule) (level : Level) : LintOptions :=
  { options with level := fun other => if other = rule then level else options.level other }

end LintOptions

/-- Which rules report, and how. -/
structure ValidationOptions where
  /-- Whether anything but spelling is checked. -/
  validate : Bool := true
  lint : LintOptions := {}
deriving DecidableEq

namespace ValidationOptions

/-- The severity a rule reports at; none when it is off. -/
def severityFor (options : ValidationOptions) (rule : Rule) : Option Severity :=
  if !options.validate || (rule.isLint && !options.lint.enabled) then none
  else (options.lint.level rule).severity?

end ValidationOptions

end Gamebook
