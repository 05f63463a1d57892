import Std.Data.TreeMap
import Gamebook.Project.Uri

/-!
# The lifecycle of diagnostics

How far the published diagnostics of a document are up to date.  A closed document stays disposed
until it is opened again, and nothing is published for it.
-/

namespace Gamebook

/-- How the diagnostics of a document stand. -/
inductive DiagnosticsState where
  /-- The text has changed since the last validation. -/
  | unvalidated
  | validating
  /-- The diagnostics belong to the text. -/
  | validated
  | disposed
deriving DecidableEq, Repr

/-- The state of every document ever opened. -/
structure Lifecycle where
  states : Std.TreeMap Uri DiagnosticsState := {}

namespace Lifecycle

/-- The state of a document; none when it was never opened. -/
def state? (lifecycle : Lifecycle) (uri : Uri) : Option DiagnosticsState :=
  lifecycle.states[uri]?

def set (lifecycle : Lifecycle) (uri : Uri) (state : DiagnosticsState) : Lifecycle :=
  ⟨lifecycle.states.insert uri state⟩

/-- Whether a document is open, that is known and not disposed. -/
def isLive (lifecycle : Lifecycle) (uri : Uri) : Bool :=
  (lifecycle.state? uri).any (· != .disposed)

/-- A document was opened, perhaps again. -/
def opened (lifecycle : Lifecycle) (uri : Uri) : Lifecycle :=
  lifecycle.set uri .unvalidated

/-- The text of a document changed; nothing happens to one that is not open. -/
def changed (lifecycle : Lifecycle) (uri : Uri) : Lifecycle :=
  if lifecycle.isLive uri then lifecycle.set uri .unvalidated else lifecycle

def begin? (lifecycle : Lifecycle) (uri : Uri) : Option Lifecycle :=
  if lifecycle.isLive uri then some (lifecycle.set uri .validating) else none

def finish? (lifecycle : Lifecycle) (uri : Uri) : Option Lifecycle :=
  if lifecycle.state? uri = some .validating then some (lifecycle.set uri .validated) else none

def disposed (lifecycle : Lifecycle) (uri : Uri) : Lifecycle :=
  lifecycle.set uri .disposed

@[simp]
theorem state?_set (lifecycle : Lifecycle) (uri : Uri) (state : DiagnosticsState) :
    (lifecycle.set uri state).state? uri = some state := by
  simp [state?, set]

theorem state?_set_of_ne (lifecycle : Lifecycle) {uri other : Uri} (state : DiagnosticsState)
    (different : uri ≠ other) :
    (lifecycle.set uri state).state? other = lifecycle.state? other := by
  simp [state?, set, Std.TreeMap.getElem?_insert, different]

end Lifecycle

end Gamebook
