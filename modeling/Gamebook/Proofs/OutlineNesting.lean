import Gamebook.Script.Scene

/-!
# Nesting by recursion

Lines are nested one by one, with a stack of the lines that are open.  What comes of it is
said by a recursion on the lines: under the first stand those behind it that are indented
deeper, up to the first that is not, and the level goes on behind these.  The proof says
of any stack what it becomes once the lines to come are read (`complete`), and this stays
the same while a line is read.
-/

namespace Gamebook

theorem takeWhile_of_imp {Item : Type} {weak strong : Item → Bool} (items : List Item)
    (implies : ∀ item, strong item = true → weak item = true) :
    (items.takeWhile weak).takeWhile strong = items.takeWhile strong ∧
      (items.takeWhile weak).dropWhile strong = (items.dropWhile strong).takeWhile weak ∧
      items.dropWhile weak = (items.dropWhile strong).dropWhile weak := by
  induction items with
  | nil => simp
  | cons item rest ih =>
      cases isStrong : strong item with
      | true => simpa [isStrong, implies item isStrong] using ih
      | false => cases isWeak : weak item <;> simp [isStrong, isWeak]

namespace Outline

/-- The lines nested by their indentation. -/
def ofLines : List Line → Outline
  | [] => nil
  | line :: rest =>
      entry line (ofLines (rest.takeWhile fun other => line.indent < other.indent))
        (ofLines (rest.dropWhile fun other => line.indent < other.indent))
termination_by lines => lines.length
decreasing_by
  · have := (List.takeWhile_prefix (fun other : Line => line.indent < other.indent)
      (l := rest)).length_le
    simp only [List.length_cons]
    omega
  · have := (List.dropWhile_suffix (fun other : Line => line.indent < other.indent)
      (l := rest)).length_le
    simp only [List.length_cons]
    omega

/-- Nesting neither loses nor reorders a line. -/
theorem lines_ofLines (lines : List Line) : (ofLines lines).lines = lines := by
  fun_induction ofLines lines with
  | case1 => rfl
  | case2 line rest nestedEq restEq =>
      simp [Outline.lines, nestedEq, restEq, List.takeWhile_append_dropWhile]

/-! ## The stack -/

/-- What the lines that are closed and open become once the lines to come are read. -/
def complete (closed : List (Line × Outline)) : List OpenLine → List Line → Outline
  | [], lines => behind closed (ofLines lines)
  | top :: stack, lines =>
      let nested := behind closed (ofLines (lines.takeWhile (top.line.indent < ·.indent)))
      complete ((top.line, nested) :: top.before) stack
        (lines.dropWhile (top.line.indent < ·.indent))

theorem complete_nil (closed : List (Line × Outline)) (stack : List OpenLine) :
    complete closed stack [] = behind (Nesting.close 0 closed stack).closed nil := by
  induction stack generalizing closed with
  | nil => rw [complete, ofLines]; rfl
  | cons top stack ih =>
      rw [complete, Nesting.close, if_pos (Nat.zero_le _), ← ih]
      simp only [List.takeWhile_nil, List.dropWhile_nil, ofLines]

/-- A line that is indented no deeper than an open one closes it. -/
theorem complete_close (closed : List (Line × Outline)) (stack : List OpenLine) (line : Line)
    (lines : List Line) :
    complete (Nesting.close line.indent closed stack).closed
        (Nesting.close line.indent closed stack).stack (line :: lines) =
      complete closed stack (line :: lines) := by
  induction stack generalizing closed with
  | nil => rfl
  | cons top stack ih =>
      rw [Nesting.close]
      split
      · rename_i isDeep
        have notUnder : ¬ top.line.indent < line.indent := Nat.not_lt.2 isDeep
        rw [ih, complete]
        simp [notUnder, ofLines]
      · rfl

theorem indent_lt_of_close {indent : Nat} {closed : List (Line × Outline)}
    {stack : List OpenLine} {top : OpenLine}
    (isTop : top ∈ (Nesting.close indent closed stack).stack.head?) :
    top.line.indent < indent := by
  induction stack generalizing closed with
  | nil => simp [Nesting.close] at isTop
  | cons first stack ih =>
      rw [Nesting.close] at isTop
      split at isTop
      · exact ih isTop
      · rename_i isShallow
        obtain rfl : first = top := by simpa using isTop
        exact Nat.lt_of_not_le isShallow

/-- A line that is indented deeper than the open ones gets what would stand under it there. -/
theorem complete_open {stack : List OpenLine} {line : Line}
    (deeper : ∀ top ∈ stack.head?, top.line.indent < line.indent)
    (closed : List (Line × Outline)) (lines : List Line) :
    complete [] (⟨line, closed⟩ :: stack) lines = complete closed stack (line :: lines) := by
  cases stack with
  | nil => rw [complete, complete, complete, ofLines]; rfl
  | cons top stack =>
      have isUnder : top.line.indent < line.indent := deeper top rfl
      have deep_imp : ∀ other : Line, decide (line.indent < other.indent) = true →
          decide (top.line.indent < other.indent) = true := fun other isDeep => by
        simp only [decide_eq_true_eq] at isDeep ⊢
        omega
      obtain ⟨takeEq, dropTakeEq, dropEq⟩ := takeWhile_of_imp lines deep_imp
      rw [complete, complete, complete]
      simp only [List.takeWhile_cons, List.dropWhile_cons, isUnder, decide_true, if_true, ofLines,
        takeEq, dropTakeEq, dropEq]
      rfl

theorem complete_add (nesting : Nesting) (line : Line) (lines : List Line) :
    complete (nesting.add line).closed (nesting.add line).stack lines =
      complete nesting.closed nesting.stack (line :: lines) := by
  rw [← complete_close]
  exact complete_open (fun _ => indent_lt_of_close) _ lines

theorem finish_foldl_add (nesting : Nesting) (lines : List Line) :
    (lines.foldl Nesting.add nesting).finish = complete nesting.closed nesting.stack lines := by
  induction lines generalizing nesting with
  | nil => exact (complete_nil _ _).symm
  | cons line lines ih => rw [List.foldl_cons, ih, complete_add]

/-- Reading the lines one by one nests them as the recursion does. -/
theorem build_eq_ofLines (lines : List Line) : build lines = ofLines lines := by
  rw [build, finish_foldl_add]
  rfl

end Outline

theorem Source.outline_eq_ofLines (source : Source) :
    source.outline = .ofLines source.contentLines :=
  Outline.build_eq_ofLines _

theorem Scene.outline_eq_ofLines (scene : Scene) :
    scene.outline = .ofLines scene.source.contentLines := by
  rw [scene.outline_eq, scene.source.outline_eq_ofLines]

end Gamebook
