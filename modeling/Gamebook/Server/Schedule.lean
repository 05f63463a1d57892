import Gamebook.Project.Uri

/-!
# Delayed tasks

A change of a document makes two tasks due after a delay: to validate the document and to index it.
Each task has at most one deadline, and scheduling it again moves the deadline, so that a burst of
changes leads to one run.  Times are milliseconds from a common origin.
-/

namespace Gamebook

inductive TaskKind where
  | validate
  | index
deriving DecidableEq, Repr

namespace TaskKind

/-- How long after a change the task runs. -/
def delay : TaskKind → Nat
  | validate => 500
  | index => 1000

def rank : TaskKind → Nat
  | validate => 0
  | index => 1

end TaskKind

structure DelayedTask where
  uri : Uri
  kind : TaskKind
deriving DecidableEq, Repr

structure Pending where
  task : DelayedTask
  deadline : Nat
deriving DecidableEq, Repr

namespace Pending

/-- Whether a task runs before another that is due as well: by deadline, then by URI, then
validation first. -/
def before (first second : Pending) : Bool :=
  if first.deadline ≠ second.deadline then first.deadline < second.deadline
  else if first.task.uri ≠ second.task.uri then first.task.uri < second.task.uri
  else first.task.kind.rank ≤ second.task.kind.rank

end Pending

/-- The tasks that are due some time. -/
structure Schedule where
  pending : List Pending := []
deriving DecidableEq, Repr

namespace Schedule

/-- Schedules a task after a change at `now`, in the place of an earlier deadline. -/
def schedule (schedule : Schedule) (task : DelayedTask) (now : Nat) : Schedule :=
  ⟨schedule.pending.filter (·.task != task) ++ [⟨task, now + task.kind.delay⟩]⟩

def isPending (schedule : Schedule) (task : DelayedTask) : Bool :=
  schedule.pending.any (·.task == task)

def cancel (schedule : Schedule) (task : DelayedTask) : Schedule :=
  ⟨schedule.pending.filter (·.task != task)⟩

def cancelDocument (schedule : Schedule) (uri : Uri) : Schedule :=
  ⟨schedule.pending.filter (·.task.uri != uri)⟩

def nextDeadline? (schedule : Schedule) : Option Nat :=
  (schedule.pending.map (·.deadline)).min?

/-- The schedule without the tasks due at `now`, and those tasks in the order they run. -/
def takeDue (schedule : Schedule) (now : Nat) : Schedule × List DelayedTask :=
  (⟨schedule.pending.filter (now < ·.deadline)⟩,
    ((schedule.pending.filter (·.deadline ≤ now)).mergeSort Pending.before).map (·.task))

def size (schedule : Schedule) : Nat :=
  schedule.pending.length

def isEmpty (schedule : Schedule) : Bool :=
  schedule.pending.isEmpty

end Schedule

end Gamebook
