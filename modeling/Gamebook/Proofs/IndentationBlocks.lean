import Gamebook.Editor.Outlining
import Gamebook.Proofs.ScenePlacement
import Gamebook.Proofs.TrimmedText
import Mathlib.Data.List.TakeWhile

/-!
# Folds and blocks of indentation

A line opens a block if the next line that is not blank is indented deeper.  The block
goes on up to the first line that is indented no deeper than the one that opens it, and
its last line is the last before that one that is not blank.

All this is said of the numbered lines of a source, without an outline.  The folds of a
document are read off its outline, one under the other; they are exactly the blocks.
-/

namespace Gamebook

/-! ## Blocks of a source -/

namespace Source

/-- The columns before the content of a line; none for a blank line or behind the last. -/
def indent? (source : Source) (number : Nat) : Option Nat :=
  (source.line? number).bind fun text =>
    if text.chars.all isBlank then none else some (columns (text.chars.takeWhile isIndentation))

/-- `next` is the first line behind `number` that is not blank. -/
structure Next (source : Source) (number next : Nat) : Prop where
  behind : number < next
  notBlank : (source.indent? next).isSome = true
  nearest : ∀ between, number < between → between < next → source.indent? between = none

/-- `last` is the last line before `stop` that is not blank. -/
structure LastBefore (source : Source) (stop last : Nat) : Prop where
  before : last < stop
  notBlank : (source.indent? last).isSome = true
  nearest : ∀ between, last < between → between < stop → source.indent? between = none

/-- `stop` is the first line behind `number` that is not blank and indented no deeper than
`indent`, or the end of the source if there is none. -/
structure Stop (source : Source) (indent number stop : Nat) : Prop where
  behind : number < stop
  deeper : ∀ between other, number < between → between < stop →
    source.indent? between = some other → indent < other
  stops : stop = source.lineCount ∨ ∃ other, source.indent? stop = some other ∧ other ≤ indent

/-- The next line that is not blank is indented deeper. -/
def OpensBlock (source : Source) (number : Nat) : Prop :=
  ∃ indent next deeper, source.indent? number = some indent ∧ source.Next number next ∧
    source.indent? next = some deeper ∧ indent < deeper

/-- The block under a line ends with `last`. -/
def EndsBlock (source : Source) (number last : Nat) : Prop :=
  ∃ indent stop, source.indent? number = some indent ∧ source.Stop indent number stop ∧
    source.LastBefore stop last

variable {source : Source} {first last number indent : Nat}

theorem lt_lineCount_of_indent? (isIndent : source.indent? number = some indent) :
    number < source.lineCount := by
  obtain ⟨text, isText, _⟩ := Option.bind_eq_some_iff.1 isIndent
  obtain ⟨line, isLine, _⟩ := Option.map_eq_some_iff.1 isText
  exact (List.getElem?_eq_some_iff.1 isLine).1

theorem EndsBlock.last_lt_lineCount (ends : source.EndsBlock number last) :
    last < source.lineCount := by
  obtain ⟨_, _, _, _, isLast⟩ := ends
  obtain ⟨indent, isIndent⟩ := Option.isSome_iff_exists.1 isLast.notBlank
  exact lt_lineCount_of_indent? isIndent

/-- A block has a line besides the one that opens it. -/
theorem OpensBlock.lt_last (opens : source.OpensBlock number)
    (ends : source.EndsBlock number last) : number < last := by
  obtain ⟨indent, next, deeper, isIndent, isNext, isDeeper, isLess⟩ := opens
  obtain ⟨_, stop, sameIndent, isStop, isLast⟩ := ends
  obtain rfl := Option.some.inj (isIndent.symm.trans sameIndent)
  have nextLt : next < stop := by
    by_contra stopLe
    rcases isStop.stops with stopEq | ⟨other, isOther, shallow⟩
    · have := lt_lineCount_of_indent? isDeeper
      omega
    · rcases Nat.lt_or_eq_of_le (Nat.le_of_not_lt stopLe) with isBetween | rfl
      · simp [isNext.nearest stop isStop.behind isBetween] at isOther
      · obtain rfl := Option.some.inj (isDeeper.symm.trans isOther)
        omega
  have nextLe : next ≤ last := by
    by_contra lastLt
    simp [isLast.nearest next (by omega) nextLt] at isDeeper
  exact Nat.lt_of_lt_of_le isNext.behind nextLe

/-- Of two blocks the later one stands behind the earlier one or inside it: a line that
stops the earlier block stops the later one as well. -/
theorem EndsBlock.behind_or_inside {later laterLast : Nat} (ends : source.EndsBlock first last)
    (laterEnds : source.EndsBlock later laterLast) (isLater : first < later) :
    last < later ∨ laterLast ≤ last := by
  have inSource := laterEnds.last_lt_lineCount
  obtain ⟨indent, stop, _, isStop, isLast⟩ := ends
  obtain ⟨laterIndent, laterStop, isLaterIndent, isLaterStop, isLaterLast⟩ := laterEnds
  by_contra neither
  have laterLe : later ≤ last := by omega
  have lastLt : last < laterLast := by omega
  have laterDeeper := isStop.deeper later laterIndent isLater
    (Nat.lt_of_le_of_lt laterLe isLast.before) isLaterIndent
  have stopLe : stop ≤ laterLast := by
    by_contra laterLastLt
    have blank := isLast.nearest laterLast lastLt (by omega)
    have notBlank := isLaterLast.notBlank
    simp [blank] at notBlank
  rcases isStop.stops with stopEq | ⟨other, isOther, shallow⟩
  · omega
  · have := isLaterStop.deeper stop other (by have := isLast.before; omega)
      (Nat.lt_of_le_of_lt stopLe isLaterLast.before) isOther
    omega

end Source

/-! ## Blocks of a list of lines -/

namespace Outline

/-- The lines that follow and are indented deeper, up to the first that is not. -/
def bodyOf (line : Line) (behind : List Line) : List Line :=
  behind.takeWhile fun other => line.indent < other.indent

/-- A fold for each line with a body, from that line to the last one of the body. -/
def blocks : List Line → List Fold
  | [] => []
  | line :: behind =>
      ((bodyOf line behind).getLast?.map fun last => ⟨line.number, last.number⟩).toList ++
        blocks behind

/-- A list of lines can be cut before a line that is indented no deeper than those before. -/
theorem blocks_append {front later : List Line}
    (shallow : ∀ line ∈ front, ∀ next ∈ later.head?, next.indent ≤ line.indent) :
    blocks (front ++ later) = blocks front ++ blocks later := by
  induction front with
  | nil => rfl
  | cons line front ih =>
      obtain ⟨here, others⟩ := List.forall_mem_cons.1 shallow
      have sameBody : bodyOf line (front ++ later) = bodyOf line front := by
        apply takeWhile_append_of_head?
        intro next isNext
        simpa using here next isNext
      rw [List.cons_append, blocks, sameBody, ih others, blocks, List.append_assoc]

/-- The fold of a line with the lines nested under it. -/
theorem ownFold_eq {line : Line} {behind : List Line}
    (lineBefore : ∀ other ∈ behind, line.number < other.number) :
    (if line.number < (lastOf line (ofLines (bodyOf line behind))).number then
        [Fold.mk line.number (lastOf line (ofLines (bodyOf line behind))).number]
      else []) =
      ((bodyOf line behind).getLast?.map fun last => ⟨line.number, last.number⟩).toList := by
  rw [lastOf, last?_eq, lines_ofLines]
  cases lastEq : (bodyOf line behind).getLast? with
  | none => simp
  | some last =>
      have isBehind : last ∈ behind :=
        (List.takeWhile_sublist _).subset (List.mem_of_getLast? lastEq)
      simp [lineBefore last isBehind]

/-- The folds of an outline are the blocks of its lines. -/
theorem folds_ofLines {lines : List Line}
    (ordered : lines.Pairwise fun first second => first.number < second.number) :
    (ofLines lines).folds = blocks lines := by
  fun_induction ofLines lines with
  | case1 => rfl
  | case2 line behind nestedIh restIh =>
      obtain ⟨lineBefore, behindOrdered⟩ := List.pairwise_cons.1 ordered
      have nestedEq : (ofLines (bodyOf line behind)).folds = blocks (bodyOf line behind) :=
        nestedIh (behindOrdered.sublist (List.takeWhile_sublist _))
      have restEq := restIh (behindOrdered.sublist (List.dropWhile_sublist _))
      -- the first line behind the body is indented no deeper than any line of the body
      have cut : blocks behind = blocks (bodyOf line behind) ++
          blocks (behind.dropWhile fun other => line.indent < other.indent) := by
        rw [← blocks_append, bodyOf, List.takeWhile_append_dropWhile]
        intro inner isInner next isNext
        have deeper := List.mem_takeWhile_imp isInner
        have notDeeper := List.head?_dropWhile_not
          (fun other : Line => decide (line.indent < other.indent)) behind
        rw [Option.mem_def.1 isNext] at notDeeper
        simp only [decide_eq_true_eq, decide_eq_false_iff_not] at deeper notDeeper
        omega
      rw [blocks, cut, ← ownFold_eq lineBefore, ← nestedEq, ← restEq, ← List.append_assoc, folds]
      rfl

theorem mem_blocks_iff {lines : List Line} {fold : Fold} :
    fold ∈ blocks lines ↔ ∃ before line behind last, lines = before ++ line :: behind ∧
      (bodyOf line behind).getLast? = some last ∧ fold = ⟨line.number, last.number⟩ := by
  induction lines with
  | nil => simp [blocks]
  | cons first rest ih =>
      rw [blocks, List.mem_append, ih]
      constructor
      · rintro (isHere | ⟨before, line, behind, last, rfl, isLast, rfl⟩)
        · obtain ⟨last, isLast, rfl⟩ := Option.map_eq_some_iff.1 (Option.mem_toList.1 isHere)
          exact ⟨[], first, rest, last, rfl, isLast, rfl⟩
        · exact ⟨first :: before, line, behind, last, rfl, isLast, rfl⟩
      · rintro ⟨before, line, behind, last, linesEq, isLast, rfl⟩
        cases before with
        | nil =>
            obtain ⟨rfl, rfl⟩ := List.cons.inj linesEq
            exact .inl (by simp [isLast])
        | cons other before =>
            obtain ⟨rfl, rfl⟩ := List.cons.inj linesEq
            exact .inr ⟨before, line, behind, last, rfl, isLast, rfl⟩

theorem map_first_blocks_sublist (lines : List Line) :
    ((blocks lines).map (·.first)).Sublist (lines.map (·.number)) := by
  induction lines with
  | nil => exact .slnil
  | cons line behind ih =>
      rw [blocks]
      cases (bodyOf line behind).getLast? with
      | none => exact ih.cons _
      | some last => exact ih.cons_cons _

end Outline

/-! ## Lines of a source and their numbers -/

theorem isBlank_of_isIndentation {char : Char} (indents : isIndentation char = true) :
    isBlank char = true := by
  simp only [isIndentation, Bool.or_eq_true, beq_iff_eq] at indents
  rcases indents with rfl | rfl <;> decide

theorem Line.map_indent_ofFragment? (number : Nat) (text : Fragment) :
    (Line.ofFragment? number text).map (·.indent) =
      if text.chars.all isBlank then none
      else some (columns (text.chars.takeWhile isIndentation)) := by
  have emptyEq : (text.dropWhile isIndentation).trimEnd.isEmpty = text.chars.all isBlank := by
    rw [Bool.eq_iff_iff, Fragment.isEmpty, List.isEmpty_iff, List.all_eq_true]
    refine trimEndChars_eq_nil_iff.trans ⟨?_, ?_⟩
    · intro restBlank char isChar
      rw [← List.takeWhile_append_dropWhile (p := isIndentation) (l := text.chars),
        List.mem_append] at isChar
      rcases isChar with isIndent | inRest
      · exact isBlank_of_isIndentation (List.mem_takeWhile_imp isIndent)
      · exact restBlank char inRest
    · intro allBlank char inRest
      exact allBlank char ((List.dropWhile_sublist _).subset inRest)
  simp only [Line.ofFragment?, emptyEq]
  split <;> rfl

namespace Source

variable {source : Source} {number indent : Nat}

theorem indent?_eq_some_iff :
    source.indent? number = some indent ↔
      ∃ line ∈ source.contentLines, line.number = number ∧ line.indent = indent := by
  simp only [indent?, ← Line.map_indent_ofFragment? number]
  constructor
  · intro isIndent
    obtain ⟨text, isText, indentEq⟩ := Option.bind_eq_some_iff.1 isIndent
    obtain ⟨raw, isRaw, rfl⟩ := Option.map_eq_some_iff.1 isText
    obtain ⟨line, isLine, rfl⟩ := Option.map_eq_some_iff.1 indentEq
    refine ⟨line, ?_, (Line.ofFragment?_spec isLine).1, rfl⟩
    rw [contentLines_eq_filterMap]
    exact List.mem_filterMap.2 ⟨(raw, number), List.mem_zipIdx_iff_getElem?.2 isRaw, isLine⟩
  · rintro ⟨line, isLine, rfl, rfl⟩
    obtain ⟨raw, isRaw, lineEq⟩ := exists_text_of_mem_contentLines isLine
    simp [line?, isRaw, lineEq]

theorem indent?_of_mem {line : Line} (isLine : line ∈ source.contentLines) :
    source.indent? line.number = some line.indent :=
  indent?_eq_some_iff.2 ⟨line, isLine, rfl, rfl⟩

theorem exists_line_of_notBlank (notBlank : source.indent? number ≠ none) :
    ∃ line ∈ source.contentLines, line.number = number := by
  obtain ⟨indent, isIndent⟩ := Option.ne_none_iff_exists'.1 notBlank
  obtain ⟨line, isLine, numberEq, _⟩ := indent?_eq_some_iff.1 isIndent
  exact ⟨line, isLine, numberEq⟩

theorem numbers_pairwise (source : Source) :
    source.contentLines.Pairwise fun first second => first.number < second.number :=
  source.contentLines_pairwise.imp (·.1)

/-- A line with the lines of its body and those that follow. -/
structure BodyCut (source : Source) (before : List Line) (line : Line) (body rest : List Line) :
    Prop where
  lines_eq : source.contentLines = before ++ line :: (body ++ rest)
  deeper : ∀ other ∈ body, line.indent < other.indent
  shallow : ∀ next ∈ rest.head?, next.indent ≤ line.indent

theorem bodyCut_of_eq {before behind : List Line} {line : Line}
    (linesEq : source.contentLines = before ++ line :: behind) :
    source.BodyCut before line (Outline.bodyOf line behind)
      (behind.dropWhile fun other => line.indent < other.indent) where
  lines_eq := by rw [linesEq, Outline.bodyOf, List.takeWhile_append_dropWhile]
  deeper other inBody := by simpa using List.mem_takeWhile_imp inBody
  shallow next isNext := by
    have notDeeper := List.head?_dropWhile_not
      (fun other : Line => decide (line.indent < other.indent)) behind
    rw [Option.mem_def.1 isNext] at notDeeper
    simpa using notDeeper

/-- The number of the first of the lines that follow a body, or the end of the source. -/
def stopAt (source : Source) (rest : List Line) : Nat :=
  (rest.head?.map (·.number)).getD source.lineCount

namespace BodyCut

variable {before body rest : List Line} {line other : Line}

theorem mem_lines (cut : source.BodyCut before line body rest) {other : Line}
    (isOther : other ∈ line :: (body ++ rest)) : other ∈ source.contentLines := by
  rw [cut.lines_eq]
  exact List.mem_append_right _ isOther

/-- The numbers grow from the line through its body to the lines that follow. -/
theorem ordered (cut : source.BodyCut before line body rest) :
    (line :: (body ++ rest)).Pairwise fun first second => first.number < second.number := by
  have all := source.numbers_pairwise
  rw [cut.lines_eq] at all
  exact (List.pairwise_append.1 all).2.1

theorem mem_behind (cut : source.BodyCut before line body rest)
    (isOther : other ∈ source.contentLines) (isLater : line.number < other.number) :
    other ∈ body ++ rest := by
  have all := source.numbers_pairwise
  rw [cut.lines_eq] at isOther all
  rcases List.mem_append.1 isOther with isBefore | isHere
  · have := (List.pairwise_append.1 all).2.2 other isBefore line List.mem_cons_self
    omega
  · rcases List.mem_cons.1 isHere with rfl | isBehind
    · omega
    · exact isBehind

theorem lt_stopAt_of_mem_body (cut : source.BodyCut before line body rest)
    (inBody : other ∈ body) : other.number < source.stopAt rest := by
  have isLine := cut.mem_lines (List.mem_cons_of_mem _ (List.mem_append_left _ inBody))
  cases rest with
  | nil => exact lt_lineCount_of_indent? (indent?_of_mem isLine)
  | cons first rest =>
      have behind := (List.pairwise_cons.1 cut.ordered).2
      exact (List.pairwise_append.1 behind).2.2 other inBody first List.mem_cons_self

theorem mem_body_of_lt_stopAt (cut : source.BodyCut before line body rest)
    (isOther : other ∈ source.contentLines) (isLater : line.number < other.number)
    (isBefore : other.number < source.stopAt rest) : other ∈ body := by
  rcases List.mem_append.1 (cut.mem_behind isOther isLater) with inBody | inRest
  · exact inBody
  · have behind := (List.pairwise_cons.1 cut.ordered).2
    cases rest with
    | nil => simp at inRest
    | cons first rest =>
        simp only [stopAt, List.head?_cons, Option.map_some, Option.getD_some] at isBefore
        rcases List.mem_cons.1 inRest with rfl | inRest
        · omega
        · have restOrdered := (List.pairwise_append.1 behind).2.1
          have := (List.pairwise_cons.1 restOrdered).1 other inRest
          omega

theorem stop (cut : source.BodyCut before line body rest) :
    source.Stop line.indent line.number (source.stopAt rest) where
  behind := by
    cases rest with
    | nil => exact lt_lineCount_of_indent? (indent?_of_mem (cut.mem_lines List.mem_cons_self))
    | cons first rest =>
        exact (List.pairwise_cons.1 cut.ordered).1 first (by simp)
  deeper := by
    intro between indent isBehind isBefore isIndent
    obtain ⟨other, isOther, rfl, rfl⟩ := indent?_eq_some_iff.1 isIndent
    exact cut.deeper other (cut.mem_body_of_lt_stopAt isOther isBehind isBefore)
  stops := by
    cases rest with
    | nil => exact .inl rfl
    | cons first rest =>
        exact .inr ⟨first.indent, indent?_of_mem (cut.mem_lines (by simp)), cut.shallow first rfl⟩

theorem lastBefore (cut : source.BodyCut before line body rest) {last : Line}
    (isLast : body.getLast? = some last) : source.LastBefore (source.stopAt rest) last.number := by
  have inBody := List.mem_of_getLast? isLast
  refine ⟨cut.lt_stopAt_of_mem_body inBody, ?_, ?_⟩
  · rw [indent?_of_mem (cut.mem_lines (List.mem_cons_of_mem _ (List.mem_append_left _ inBody)))]
    rfl
  · intro between isBehind isBefore
    by_contra notBlank
    obtain ⟨other, isOther, rfl⟩ := exists_line_of_notBlank notBlank
    obtain ⟨lineBefore, behind⟩ := List.pairwise_cons.1 cut.ordered
    have lineLt := lineBefore last (List.mem_append_left _ inBody)
    have isInner := cut.mem_body_of_lt_stopAt isOther (by omega) isBefore
    -- nothing of the body stands behind its last line
    obtain ⟨front, rfl⟩ := List.getLast?_eq_some_iff.1 isLast
    have bodyOrdered := (List.pairwise_append.1 behind).1
    rcases List.mem_append.1 isInner with inFront | isSame
    · have := (List.pairwise_append.1 bodyOrdered).2.2 other inFront last (by simp)
      omega
    · obtain rfl := List.mem_singleton.1 isSame
      omega

theorem next {first : Line} {others : List Line}
    (cut : source.BodyCut before line (first :: others) rest) :
    source.Next line.number first.number := by
  obtain ⟨lineBefore, behind⟩ := List.pairwise_cons.1 cut.ordered
  refine ⟨lineBefore first (by simp), ?_, ?_⟩
  · rw [indent?_of_mem (cut.mem_lines (by simp))]
    rfl
  · intro between isBehind isBefore
    by_contra notBlank
    obtain ⟨other, isOther, rfl⟩ := exists_line_of_notBlank notBlank
    rcases List.mem_cons.1 (cut.mem_behind isOther isBehind) with rfl | isLater
    · omega
    · have := (List.pairwise_cons.1 behind).1 other isLater
      omega

/-- A line whose next line is indented deeper has a body. -/
theorem body_ne_nil (cut : source.BodyCut before line body rest)
    (opens : source.OpensBlock line.number) : body ≠ [] := by
  rintro rfl
  obtain ⟨indent, next, deeper, isIndent, isNext, isDeeper, isLess⟩ := opens
  rw [indent?_of_mem (cut.mem_lines List.mem_cons_self), Option.some.injEq] at isIndent
  obtain ⟨nextLine, isNextLine, rfl, rfl⟩ := indent?_eq_some_iff.1 isDeeper
  cases rest with
  | nil => simpa using cut.mem_behind isNextLine isNext.behind
  | cons first rest =>
      obtain ⟨lineBefore, behind⟩ := List.pairwise_cons.1 cut.ordered
      have shallow := cut.shallow first rfl
      rcases List.mem_cons.1 (cut.mem_behind isNextLine isNext.behind) with rfl | isLater
      · omega
      · -- then the first line would stand between the two
        have blank := isNext.nearest first.number (lineBefore first (by simp))
          ((List.pairwise_cons.1 behind).1 nextLine isLater)
        rw [indent?_of_mem (cut.mem_lines (by simp))] at blank
        contradiction

end BodyCut

end Source

/-! ## Folds of a document -/

namespace Scene

variable {scene : Scene}

theorem folds_eq_blocks (scene : Scene) :
    scene.outline.folds = Outline.blocks scene.source.contentLines := by
  rw [scene.outline_eq_ofLines]
  exact Outline.folds_ofLines scene.source.numbers_pairwise

theorem folds_pairwise (scene : Scene) :
    scene.outline.folds.Pairwise fun first second => first.first < second.first := by
  rw [← List.pairwise_map (f := Fold.first) (R := (· < ·)), folds_eq_blocks]
  exact (List.pairwise_map.2 scene.source.numbers_pairwise).sublist
    (Outline.map_first_blocks_sublist _)

theorem endsBlock_of_mem_folds {fold : Fold} (isFold : fold ∈ scene.outline.folds) :
    scene.source.OpensBlock fold.first ∧ scene.source.EndsBlock fold.first fold.last := by
  rw [folds_eq_blocks] at isFold
  obtain ⟨before, line, behind, last, linesEq, isLast, rfl⟩ := Outline.mem_blocks_iff.1 isFold
  have cut := Source.bodyCut_of_eq linesEq
  have indentEq := Source.indent?_of_mem (cut.mem_lines List.mem_cons_self)
  refine ⟨?_, line.indent, _, indentEq, cut.stop, cut.lastBefore isLast⟩
  cases bodyEq : Outline.bodyOf line behind with
  | nil => simp [bodyEq] at isLast
  | cons first others =>
      rw [bodyEq] at cut
      exact ⟨line.indent, first.number, first.indent, indentEq, cut.next,
        Source.indent?_of_mem (cut.mem_lines (by simp)), cut.deeper first List.mem_cons_self⟩

theorem exists_fold_of_opensBlock {number : Nat} (opens : scene.source.OpensBlock number) :
    ∃ last, ⟨number, last⟩ ∈ scene.outline.folds := by
  obtain ⟨_, _, _, isIndent, _⟩ := id opens
  obtain ⟨line, isLine, rfl, _⟩ := Source.indent?_eq_some_iff.1 isIndent
  obtain ⟨before, behind, linesEq⟩ := List.append_of_mem isLine
  have hasBody := (Source.bodyCut_of_eq linesEq).body_ne_nil opens
  refine ⟨((Outline.bodyOf line behind).getLast hasBody).number, ?_⟩
  rw [folds_eq_blocks, Outline.mem_blocks_iff]
  exact ⟨before, line, behind, _, linesEq, List.getLast?_eq_some_getLast hasBody, rfl⟩

end Scene

namespace ProjectSnapshot

/-- The folds of a document are its blocks of indentation: in the order of their first
lines, one for each line with a deeper next line, up to the last line of its block.  Of two
folds one is inside the other, or they share no line. -/
theorem folds_are_blocks (snapshot : ProjectSnapshot) (uri : Uri) (entry : SceneEntry)
    (isDocument : snapshot.document? uri = some entry) :
    ∃ folds, snapshot.folds? uri = some folds ∧
      folds.Pairwise (fun first second => first.first < second.first) ∧
      (∀ number, (∃ last, ⟨number, last⟩ ∈ folds) ↔ entry.scene.source.OpensBlock number) ∧
      (∀ fold ∈ folds, entry.scene.source.EndsBlock fold.first fold.last ∧
        fold.first < fold.last ∧ fold.last < entry.scene.source.lineCount) ∧
      ∀ one ∈ folds, ∀ other ∈ folds,
        one.last < other.first ∨ other.last < one.first ∨
          (one.first ≤ other.first ∧ other.last ≤ one.last) ∨
            (other.first ≤ one.first ∧ one.last ≤ other.last) := by
  refine ⟨entry.scene.outline.folds, by rw [folds?, isDocument, Option.map_some],
    entry.scene.folds_pairwise, ?_, ?_, ?_⟩
  · intro number
    refine ⟨?_, Scene.exists_fold_of_opensBlock⟩
    rintro ⟨last, isFold⟩
    exact (Scene.endsBlock_of_mem_folds isFold).1
  · intro fold isFold
    obtain ⟨opens, ends⟩ := Scene.endsBlock_of_mem_folds isFold
    exact ⟨ends, opens.lt_last ends, ends.last_lt_lineCount⟩
  · intro one isOne other isOther
    obtain ⟨_, oneEnds⟩ := Scene.endsBlock_of_mem_folds isOne
    obtain ⟨_, otherEnds⟩ := Scene.endsBlock_of_mem_folds isOther
    rcases Nat.lt_trichotomy one.first other.first with isEarlier | isSame | isLater
    · have := oneEnds.behind_or_inside otherEnds isEarlier
      omega
    · omega
    · have := otherEnds.behind_or_inside oneEnds isLater
      omega

/-- A choice with a blank line in its first option, whose body is indented by a tab. -/
theorem folds_across_blank_line :
    let entry := SceneEntry.ofDocument (.ofText "file:///game/chapter.txt" 1
      "*choice\n  #Fight\n\n\tYou fight.\n  #Flee\n    You run.\n \t\nAfter.")
    let snapshot := ProjectSnapshot.withEntry {} entry
    snapshot.document? entry.uri = some entry ∧
      snapshot.folds? entry.uri = some [⟨0, 5⟩, ⟨1, 3⟩, ⟨4, 5⟩] ∧
      entry.scene.source.OpensBlock 1 ∧ entry.scene.source.EndsBlock 1 3 := by
  intro entry snapshot
  have isDocument : snapshot.document? entry.uri = some entry := by
    simp [snapshot, document?, withEntry]
  have foldsEq : snapshot.folds? entry.uri = some [⟨0, 5⟩, ⟨1, 3⟩, ⟨4, 5⟩] := by
    rw [folds?, isDocument]
    decide +kernel
  obtain ⟨folds, isFolds, _, opens, ends, _⟩ := folds_are_blocks snapshot entry.uri entry isDocument
  obtain rfl := Option.some.inj (isFolds.symm.trans foldsEq)
  exact ⟨isDocument, foldsEq, (opens 1).1 ⟨3, by simp⟩, (ends ⟨1, 3⟩ (by simp)).1⟩

end ProjectSnapshot

end Gamebook
