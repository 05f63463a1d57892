import Gamebook.Proofs.ScenePlacement
import Gamebook.Proofs.LineFaults
import Mathlib.Data.List.TakeWhile

/-!
# Parents and siblings in an outline

An outline is a tree of lines.  In the outline of a scene the parent of a line
is the nearest earlier line that is indented less, and lines without such a
line are the roots.  Both follow from one comparison of the tree, walked in
source order with the parent of each line, with a walk over the plain list of
lines that remembers the lines it has seen.
-/

namespace Gamebook

namespace Outline

/-- `child` stands directly under `parent`. -/
def Parent (parent child : Line) : Outline → Prop
  | nil => False
  | entry line nested rest =>
      (parent = line ∧ child ∈ nested.roots) ∨ nested.Parent parent child ∨
        rest.Parent parent child

/-- `second` follows `first` on the same level. -/
def Follows (first second : Line) : Outline → Prop
  | nil => False
  | entry line nested rest =>
      (first = line ∧ rest.first? = some second) ∨ nested.Follows first second ∨
        rest.Follows first second

/-! ## The walk with parents -/

/-- Every line in source order, with the line it stands under. -/
def lineage (above : Option Line) : Outline → List (Option Line × Line)
  | nil => []
  | entry line nested rest =>
      (above, line) :: (nested.lineage (some line) ++ rest.lineage above)

/-- Every line of a list with the last line before it that is indented less,
where `seen` are the lines before the list, the last one first. -/
def nearestShallower (seen : List Line) : List Line → List (Option Line × Line)
  | [] => []
  | line :: rest =>
      (seen.find? (·.indent < line.indent), line) :: nearestShallower (line :: seen) rest

theorem mem_lineage_iff {outline : Outline} {above parent : Option Line} {child : Line} :
    (parent, child) ∈ outline.lineage above ↔
      (parent = above ∧ child ∈ outline.roots) ∨
        ∃ line, parent = some line ∧ outline.Parent line child := by
  induction outline generalizing above with
  | nil => simp [lineage, roots, Parent]
  | entry line nested rest nestedIh restIh =>
      simp only [lineage, roots, Parent, List.mem_cons, List.mem_append, Prod.mk.injEq,
        nestedIh, restIh]
      constructor
      · rintro (⟨rfl, rfl⟩ | (⟨rfl, isRoot⟩ | ⟨other, rfl, below⟩) |
          (⟨rfl, isRoot⟩ | ⟨other, rfl, later⟩))
        · exact Or.inl ⟨rfl, Or.inl rfl⟩
        · exact Or.inr ⟨line, rfl, Or.inl ⟨rfl, isRoot⟩⟩
        · exact Or.inr ⟨other, rfl, Or.inr (Or.inl below)⟩
        · exact Or.inl ⟨rfl, Or.inr isRoot⟩
        · exact Or.inr ⟨other, rfl, Or.inr (Or.inr later)⟩
      · rintro (⟨rfl, rfl | isRoot⟩ | ⟨other, rfl, ⟨rfl, isRoot⟩ | below | later⟩)
        · exact Or.inl ⟨rfl, rfl⟩
        · exact Or.inr (Or.inr (Or.inl ⟨rfl, isRoot⟩))
        · exact Or.inr (Or.inl (Or.inl ⟨rfl, isRoot⟩))
        · exact Or.inr (Or.inl (Or.inr ⟨other, rfl, below⟩))
        · exact Or.inr (Or.inr (Or.inr ⟨other, rfl, later⟩))

theorem nearestShallower_append (seen before after : List Line) :
    nearestShallower seen (before ++ after) =
      nearestShallower seen before ++ nearestShallower (before.reverse ++ seen) after := by
  induction before generalizing seen with
  | nil => rfl
  | cons line rest ih => simp [nearestShallower, ih]

theorem mem_of_mem_nearestShallower {seen lines : List Line} {parent : Option Line}
    {child : Line} (isEntry : (parent, child) ∈ nearestShallower seen lines) :
    child ∈ lines := by
  induction lines generalizing seen with
  | nil => simp [nearestShallower] at isEntry
  | cons line rest ih =>
      rw [nearestShallower] at isEntry
      rcases List.mem_cons.1 isEntry with isHere | isLater
      · obtain ⟨_, rfl⟩ := Prod.mk.inj isHere
        exact List.mem_cons_self
      · exact List.mem_cons_of_mem _ (ih isLater)

/-- All lines of a level that are not deeper than its first line have `above`
as the last line in `seen` that is indented less. -/
def SeenFrom (seen : List Line) (above : Option Line) (lines : List Line) : Prop :=
  ∀ line ∈ lines, (∀ first, lines.head? = some first → line.indent ≤ first.indent) →
    seen.find? (·.indent < line.indent) = above

/-- The lines under a line have seen that line last. -/
theorem SeenFrom.nested (line : Line) (seen rest : List Line) :
    SeenFrom (line :: seen) (some line)
      (rest.takeWhile fun other => line.indent < other.indent) := by
  intro other isOther _
  have deeper := List.mem_takeWhile_imp isOther
  simp only [decide_eq_true_eq] at deeper
  simp [deeper]

/-- Behind the lines under a line, nothing of them is indented less than what
follows on the level. -/
theorem SeenFrom.rest {line : Line} {seen rest : List Line} {above : Option Line}
    (seenFrom : SeenFrom seen above (line :: rest)) :
    SeenFrom ((rest.takeWhile fun other => line.indent < other.indent).reverse ++
        line :: seen) above
      (rest.dropWhile fun other => line.indent < other.indent) := by
  intro other isOther notDeeper
  have isLater : other ∈ rest := (List.dropWhile_sublist _).subset isOther
  have shallow : other.indent ≤ line.indent := by
    cases dropEq : rest.dropWhile fun next => decide (line.indent < next.indent) with
    | nil => simp [dropEq] at isOther
    | cons first others =>
        have firstShallow := List.head?_dropWhile_not
          (fun next : Line => decide (line.indent < next.indent)) rest
        have notDeeperThanFirst := notDeeper first (by rw [dropEq]; rfl)
        simp only [dropEq, List.head?_cons, decide_eq_false_iff_not, Nat.not_lt] at firstShallow
        omega
  have found := seenFrom other (List.mem_cons_of_mem _ isLater) (by simpa using shallow)
  -- the search passes over the lines under `line`, and over `line` itself
  rw [List.find?_append, List.find?_eq_none.2, Option.none_or, List.find?_cons_of_neg, found]
  · simpa using shallow
  · intro skipped isSkipped
    have deeper := List.mem_takeWhile_imp (List.mem_reverse.1 isSkipped)
    simp only [decide_eq_true_eq] at deeper ⊢
    omega

/-- Walking the outline gives each line the nearest line before it that is
indented less. -/
theorem lineage_ofLines {seen lines : List Line} {above : Option Line}
    (seenFrom : SeenFrom seen above lines) :
    (ofLines lines).lineage above = nearestShallower seen lines := by
  -- the invariant says of every level what its lines have seen; it passes on to
  -- the lines under the first one and to those behind it
  fun_induction ofLines lines generalizing seen above with
  | case1 => rfl
  | case2 line rest nestedIh restIh =>
      have found : seen.find? (·.indent < line.indent) = above :=
        seenFrom line List.mem_cons_self (by simp)
      rw [lineage, nestedIh (.nested line seen rest), restIh seenFrom.rest,
        nearestShallower, found, ← nearestShallower_append, List.takeWhile_append_dropWhile]

theorem lineage_ofLines_nil (lines : List Line) :
    (ofLines lines).lineage none = nearestShallower [] lines :=
  lineage_ofLines fun _ _ _ => rfl

theorem mem_nearestShallower_iff {before after : List Line} {line : Line}
    {parent : Option Line} (notBefore : line ∉ before) (notAfter : line ∉ after) :
    (parent, line) ∈ nearestShallower [] (before ++ line :: after) ↔
      before.reverse.find? (·.indent < line.indent) = parent := by
  rw [nearestShallower_append, nearestShallower, List.append_nil, List.mem_append,
    List.mem_cons]
  constructor
  · rintro (isBefore | isHere | isAfter)
    · exact absurd (mem_of_mem_nearestShallower isBefore) notBefore
    · exact (Prod.mk.inj isHere).1.symm
    · exact absurd (mem_of_mem_nearestShallower isAfter) notAfter
  · rintro rfl
    exact Or.inr (Or.inl rfl)

section OfLines

variable {before after : List Line} {line : Line}

theorem parent_ofLines_iff {parent : Line} (notBefore : line ∉ before)
    (notAfter : line ∉ after) :
    (ofLines (before ++ line :: after)).Parent parent line ↔
      before.reverse.find? (·.indent < line.indent) = some parent := by
  rw [← mem_nearestShallower_iff notBefore notAfter,
    ← lineage_ofLines_nil, mem_lineage_iff]
  simp

theorem root_ofLines_iff (notBefore : line ∉ before) (notAfter : line ∉ after) :
    line ∈ (ofLines (before ++ line :: after)).roots ↔
      ∀ earlier ∈ before, line.indent ≤ earlier.indent := by
  have isRoot : line ∈ (ofLines (before ++ line :: after)).roots ↔
      before.reverse.find? (·.indent < line.indent) = none := by
    rw [← mem_nearestShallower_iff notBefore notAfter,
      ← lineage_ofLines_nil, mem_lineage_iff]
    simp
  rw [isRoot, List.find?_eq_none]
  simp

end OfLines

/-! ## Neighbours on a level -/

theorem first?_ofLines (lines : List Line) : (ofLines lines).first? = lines.head? := by
  cases lines with
  | nil => rw [ofLines]; rfl
  | cons line rest => rw [ofLines]; rfl

theorem first?_mem_lines {outline : Outline} {line : Line}
    (isFirst : outline.first? = some line) : line ∈ outline.lines := by
  cases outline with
  | nil => simp [first?] at isFirst
  | entry first nested rest =>
      obtain rfl := Option.some.inj isFirst
      exact List.mem_cons_self

theorem Follows.mem_lines {outline : Outline} {first second : Line}
    (follows : outline.Follows first second) : second ∈ outline.lines := by
  induction outline with
  | nil => exact follows.elim
  | entry line nested rest nestedIh restIh =>
      rw [lines, List.mem_cons, List.mem_append]
      rcases follows with ⟨_, isFirst⟩ | below | later
      · exact Or.inr (Or.inr (first?_mem_lines isFirst))
      · exact Or.inr (Or.inl (nestedIh below))
      · exact Or.inr (Or.inr (restIh later))

/-- On a level the indentation never grows: a deeper line would stand under the
one before it. -/
theorem indent_le_of_follows {lines : List Line} {first second : Line}
    (follows : (ofLines lines).Follows first second) : second.indent ≤ first.indent := by
  fun_induction ofLines lines with
  | case1 => exact follows.elim
  | case2 line rest nestedIh restIh =>
      rcases follows with ⟨rfl, isFirst⟩ | below | later
      · rw [first?_ofLines] at isFirst
        have notDeeper := List.head?_dropWhile_not
          (fun other : Line => decide (first.indent < other.indent)) rest
        simp only [isFirst, decide_eq_false_iff_not, Nat.not_lt] at notDeeper
        exact notDeeper
      · exact nestedIh below
      · exact restIh later

/-- The faults of indentation are those of a first line that differs from what is
expected, and of a line that differs from the one before it. -/
theorem mem_indentFindings_iff {outline : Outline} {expected : Option Nat}
    {finding : Finding} :
    finding ∈ outline.indentFindings expected ↔
      (∃ line indent, outline.first? = some line ∧ expected = some indent ∧
          indent ≠ line.indent ∧ finding = .wrong .inconsistentIndent line.span) ∨
        ∃ first second, outline.Follows first second ∧ first.indent ≠ second.indent ∧
          finding = .wrong .inconsistentIndent second.span := by
  induction outline generalizing expected with
  | nil => simp [indentFindings, first?, Follows]
  | entry line nested rest nestedIh restIh =>
      rw [indentFindings, List.mem_append, List.mem_append, nestedIh, restIh]
      constructor
      · rintro ((isHere | ⟨_, _, _, isNone, _⟩ | ⟨first, second, below, differs, findingEq⟩) |
          ⟨second, indent, isFirst, indentEq, differs, findingEq⟩ |
          ⟨first, second, later, differs, findingEq⟩)
        · cases expected with
          | none => simp at isHere
          | some indent =>
              simp only [Option.any_some, bne_iff_ne, ne_eq, ite_not] at isHere
              split at isHere
              · simp at isHere
              · rename_i differs
                exact Or.inl ⟨line, indent, rfl, rfl, differs, List.mem_singleton.1 isHere⟩
        · simp at isNone
        · exact Or.inr ⟨first, second, Or.inr (Or.inl below), differs, findingEq⟩
        · obtain rfl := Option.some.inj indentEq
          exact Or.inr ⟨line, second, Or.inl ⟨rfl, isFirst⟩, differs, findingEq⟩
        · exact Or.inr ⟨first, second, Or.inr (Or.inr later), differs, findingEq⟩
      · rintro (⟨other, indent, isFirst, rfl, differs, rfl⟩ |
          ⟨first, second, ⟨rfl, isFirst⟩ | below | later, differs, rfl⟩)
        · obtain rfl := Option.some.inj isFirst
          exact Or.inl (Or.inl (by simp [differs]))
        · exact Or.inr (Or.inl ⟨second, first.indent, isFirst, rfl, differs, rfl⟩)
        · exact Or.inl (Or.inr (Or.inr ⟨first, second, below, differs, rfl⟩))
        · exact Or.inr (Or.inr ⟨first, second, later, differs, rfl⟩)

end Outline

/-! ## The outline of a scene -/

namespace Scene

theorem line_eq_of_start_eq {scene : Scene} {first second : Line}
    (isFirst : first ∈ scene.outline.lines) (isSecond : second ∈ scene.outline.lines)
    (startEq : first.content.start = second.content.start) : first = second := by
  by_contra different
  have firstBounds := first.content.start_le_stop
  have secondBounds := second.content.start_le_stop
  rcases before_or_behind scene.lines_pairwise isFirst isSecond different with before | behind
  · have := before.2
    omega
  · have := behind.2
    omega

theorem line_eq_of_span_eq {scene : Scene} {first second : Line}
    (isFirst : first ∈ scene.outline.lines) (isSecond : second ∈ scene.outline.lines)
    (spanEq : first.span = second.span) : first = second :=
  line_eq_of_start_eq isFirst isSecond (congrArg Span.start spanEq)

theorem lines_nodup (scene : Scene) : scene.outline.lines.Nodup := by
  rw [outline_lines]
  apply scene.source.contentLines_pairwise.imp
  rintro first second before rfl
  exact Nat.lt_irrefl _ before.1

theorem inconsistentIndent_mem_faults_iff {scene : Scene} {span : Span} :
    ⟨.inconsistentIndent, span⟩ ∈ scene.faults ↔
      ∃ previous line, scene.outline.Follows previous line ∧
        previous.indent ≠ line.indent ∧ span = line.span := by
  have notWalked := scene.outline.inconsistentIndent_notMem_findings span
  rw [mem_faults_iff]
  simp only [Finding.fault?_eq_some_iff, exists_eq_right, Outline.allFindings, List.mem_append,
    notWalked, or_false, Outline.mem_indentFindings_iff]
  simp

/-- The outline holds every line that is not blank, once and in order.  The parent
of a line is the nearest earlier line that is indented less, and a line without one
is a root.  A line is at fault for its indentation exactly if the line before it on
its level is indented differently, and that is then indented deeper. -/
theorem parse_outline_nearest_shallower (text : String) :
    (parse text).outline.lines =
        (parse text).source.lines.zipIdx.filterMap (fun numbered =>
          Line.ofFragment? numbered.2 (Source.content numbered.1)) ∧
      (∀ before line after, (parse text).outline.lines = before ++ line :: after →
        (∀ parent, (parse text).outline.Parent parent line ↔
          before.reverse.find? (·.indent < line.indent) = some parent) ∧
        (line ∈ (parse text).outline.roots ↔
          ∀ earlier ∈ before, line.indent ≤ earlier.indent)) ∧
      (∀ line ∈ (parse text).outline.lines,
        ⟨.inconsistentIndent, line.span⟩ ∈ (parse text).faults ↔
          ∃ previous, (parse text).outline.Follows previous line ∧
            previous.indent ≠ line.indent) ∧
      (∀ span, ⟨.inconsistentIndent, span⟩ ∈ (parse text).faults →
        ∃ line ∈ (parse text).outline.lines, span = line.span) ∧
      ∀ previous line, (parse text).outline.Follows previous line →
        previous.indent ≠ line.indent → line.indent < previous.indent := by
  have linesEq := (parse text).outline_lines
  refine ⟨linesEq.trans (Source.contentLines_eq_filterMap _), ?_, ?_, ?_, ?_⟩
  · intro before line after parts
    have distinct := (parse text).lines_nodup
    rw [parts, List.nodup_append] at distinct
    obtain ⟨_, restDistinct, apart⟩ := distinct
    have notBefore : line ∉ before := fun isBefore =>
      apart line isBefore line List.mem_cons_self rfl
    have notAfter : line ∉ after := (List.nodup_cons.1 restDistinct).1
    have outlineEq : (parse text).outline = .ofLines (before ++ line :: after) := by
      rw [← parts, linesEq]
      exact (parse text).outline_eq_ofLines
    rw [outlineEq]
    exact ⟨fun parent => Outline.parent_ofLines_iff notBefore notAfter,
      Outline.root_ofLines_iff notBefore notAfter⟩
  · intro line isLine
    rw [inconsistentIndent_mem_faults_iff]
    constructor
    · rintro ⟨previous, other, follows, differs, spanEq⟩
      obtain rfl := line_eq_of_span_eq isLine follows.mem_lines spanEq
      exact ⟨previous, follows, differs⟩
    · rintro ⟨previous, follows, differs⟩
      exact ⟨previous, line, follows, differs, rfl⟩
  · intro span isFault
    obtain ⟨previous, line, follows, _, spanEq⟩ :=
      inconsistentIndent_mem_faults_iff.1 isFault
    exact ⟨line, follows.mem_lines, spanEq⟩
  · intro previous line follows differs
    have notDeeper : line.indent ≤ previous.indent := by
      rw [(parse text).outline_eq_ofLines] at follows
      exact Outline.indent_le_of_follows follows
    omega

end Scene

end Gamebook
