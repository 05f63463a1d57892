import Gamebook.Text.Span

/-!
# Faults

A malformed line never stops the reading of a scene.  What is wrong with it is recorded as a fault
and shown later.
-/

namespace Gamebook

/-- What is wrong with a line. -/
inductive FaultCause where
  | unknownCommand (name : String)
  | missingArgument (command : String)
  | emptyBlock (opener : String)
  | optionOutsideChoice
  | orphanElse (command : String)
  | unexpectedIndent
  | inconsistentIndent
  | unterminatedInterpolation
  | unterminatedString
  | invalidName (name : String)
deriving DecidableEq, Repr

namespace FaultCause

def message : FaultCause → String
  | unknownCommand name => s!"unknown command '*{name}'"
  | missingArgument command => s!"'*{command}' is missing an argument"
  | emptyBlock opener => s!"'{opener}' has no body"
  | optionOutsideChoice => "option is not inside a *choice or *fake_choice"
  | orphanElse command => s!"'*{command}' without a preceding *if"
  | unexpectedIndent => "unexpected indentation"
  | inconsistentIndent => "indentation does not match previous lines"
  | unterminatedInterpolation => "missing closing '\x7d'"
  | unterminatedString => "unterminated string literal"
  | invalidName name => s!"invalid name '{name}'"

end FaultCause

structure Fault where
  cause : FaultCause
  span : Span
deriving DecidableEq, Repr

namespace Fault

def message (fault : Fault) : String :=
  fault.cause.message

end Fault

end Gamebook
