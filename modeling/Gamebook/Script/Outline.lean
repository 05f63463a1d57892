import Gamebook.Script.Line

/-!
# Outlines

Lines are nested by indentation: under a line stand the lines that follow it and are indented
deeper, up to the first that is not.  They are read one by one, and a stack holds those that may
still get lines under them.  An outline holds its first line, the outline under that line and the
outline of the lines after it on the same level, so that one induction covers depth and breadth.
-/

namespace Gamebook

/-- Lines nested by indentation. -/
inductive Outline where
  | nil
  | entry (line : Line) (nested rest : Outline)
deriving DecidableEq, Repr

namespace Outline

/-- Lines that are closed on one level, the last first, with the rest of the level behind them. -/
def behind (closed : List (Line × Outline)) (rest : Outline) : Outline :=
  closed.foldl (fun rest item => entry item.1 item.2 rest) rest

/-- A line whose nested lines are being read. -/
structure OpenLine where
  line : Line
  /-- The lines before it on its level, the last first. -/
  before : List (Line × Outline)

/-- What has been read of an outline. -/
structure Nesting where
  /-- The lines that are closed directly under the innermost open line, the last first. -/
  closed : List (Line × Outline) := []
  stack : List OpenLine := []

namespace Nesting

/-- Closes the open lines that have at least an indentation. -/
def close (indent : Nat) (closed : List (Line × Outline)) : List OpenLine → Nesting
  | [] => ⟨closed, []⟩
  | top :: stack =>
      if indent ≤ top.line.indent then
        close indent ((top.line, behind closed nil) :: top.before) stack
      else
        ⟨closed, top :: stack⟩

def add (nesting : Nesting) (line : Line) : Nesting :=
  let left := close line.indent nesting.closed nesting.stack
  ⟨[], ⟨line, left.closed⟩ :: left.stack⟩

def finish (nesting : Nesting) : Outline :=
  behind (close 0 nesting.closed nesting.stack).closed nil

end Nesting

/-- The lines nested by their indentation, with a stack of the lines that are open. -/
def build (lines : List Line) : Outline :=
  (lines.foldl Nesting.add {}).finish

def isEmpty : Outline → Bool
  | nil => true
  | entry .. => false

def first? : Outline → Option Line
  | nil => none
  | entry line _ _ => some line

def lines : Outline → List Line
  | nil => []
  | entry line nested rest => line :: (nested.lines ++ rest.lines)

/-- The lines of the top level. -/
def roots : Outline → List Line
  | nil => []
  | entry line _ rest => line :: rest.roots

/-- The last line, at whatever depth. -/
def last? : Outline → Option Line
  | nil => none
  | entry line nested rest => rest.last?.or (nested.last?.or (some line))

def lastOf (line : Line) (nested : Outline) : Line :=
  nested.last?.getD line

theorem last?_eq (outline : Outline) : outline.last? = outline.lines.getLast? := by
  induction outline with
  | nil => rfl
  | entry line nested rest nestedEq restEq =>
      rw [last?, nestedEq, restEq, lines, List.getLast?_cons, List.getLast?_append]
      cases rest.lines.getLast? <;> cases nested.lines.getLast? <;> rfl

/-- Whether an option stands on the top level or in a branch of a condition there. -/
def hasOption : Outline → Bool
  | nil => false
  | entry line nested rest =>
      line.kind.isOption || (line.command?.any (·.isBranch) && nested.hasOption) ||
        rest.hasOption

end Outline

end Gamebook
