import Gamebook.Script.Fault
import Gamebook.Script.Occurrence

/-!
# Findings

Reading a scene notices occurrences and faults.  Both are collected in one list, in the order in
which the scene is read.
-/

namespace Gamebook

/-- Something noticed while a scene is read. -/
inductive Finding where
  | occurrence (occurrence : Occurrence)
  | fault (fault : Fault)
deriving DecidableEq, Repr

namespace Finding

def occurrence? : Finding → Option Occurrence
  | occurrence found => some found
  | fault _ => none

def fault? : Finding → Option Fault
  | occurrence _ => none
  | fault found => some found

def mention (role : Role) (line : Nat) (fragment : Fragment) : Finding :=
  occurrence (.ofFragment role fragment line)

def wrong (cause : FaultCause) (span : Span) : Finding :=
  fault ⟨cause, span⟩

end Finding

end Gamebook
