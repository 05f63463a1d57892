import Gamebook.Proofs.ReferenceAgreement
import Gamebook.Proofs.UnreachableRuns
import Gamebook.Proofs.LineFaults

/-!
# Labels in code that is reported as unreachable

A report of unreachable code covers a line and all that is nested under it.  The
line itself is never a label, and no label of its level is covered, since the story
can be entered there.  A label nested under the line is covered nevertheless,
though a jump may lead to it.

Only `*label` commands declare labels, each on its own line, and a line with all that
is nested under it is a stretch of the lines of the scene.  So the labels that a
report covers are exactly those declared on lines nested under the reported one.
-/

namespace Gamebook

namespace Scene

/-- The labels of a scene are declared on its `*label` lines. -/
theorem exists_label_line {scene : Scene} {occurrence : Occurrence}
    (isOccurrence : occurrence ∈ scene.occurrences) (isLabel : occurrence.kind = .label) :
    ∃ line ∈ scene.outline.lines, line.isLabel = true ∧ line.number = occurrence.line := by
  obtain ⟨finding, isFinding, foundEq⟩ := mem_occurrences_iff.1 isOccurrence
  rcases List.mem_append.1 isFinding with isIndent | isWalked
  · have silent := (silent_indentFindings none scene.outline finding isIndent).1
    simp [silent] at foundEq
  · obtain ⟨place, isPlace, surroundings, previous, isFound⟩ :=
      Outline.exists_place_of_mem_findings isWalked
    obtain ⟨isLabelLine, lineEq⟩ :=
      (inWords_of_mem_lineFindings isFound foundEq).declares_of_label foundEq isLabel
    exact ⟨place.line, Outline.line_mem_lines isPlace, isLabelLine, lineEq.symm⟩

end Scene

/-! ## What a report covers -/

namespace Outline

variable {outline : Outline} {entry : Line × Outline}

/-- A line and all that is nested under it follow each other. -/
theorem infix_of_mem_levels (isEntry : entry ∈ outline.levels.flatten) :
    entry.1 :: entry.2.lines <:+: outline.lines := by
  induction outline with
  | nil => simp [levels, entries, levelsBelow] at isEntry
  | entry line nested rest nestedIh restIh =>
      simp only [levels, entries, levelsBelow, List.flatten_cons, List.flatten_append,
        List.mem_append, List.mem_cons] at isEntry nestedIh restIh
      have inNested : nested.lines <:+: (Outline.entry line nested rest).lines :=
        ⟨[line], rest.lines, by simp [lines]⟩
      have inRest : rest.lines <:+: (Outline.entry line nested rest).lines :=
        ⟨line :: nested.lines, [], by simp [lines]⟩
      rcases isEntry with (rfl | isSibling) | isChild | below | behind
      · exact ⟨[], rest.lines, by simp [lines]⟩
      · exact (restIh (.inl isSibling)).trans inRest
      · exact (nestedIh (.inl isChild)).trans inNested
      · exact (nestedIh (.inr below)).trans inNested
      · exact (restIh (.inr behind)).trans inRest

theorem stop_le_subtreeSpan (ordered : (entry.1 :: entry.2.lines).Pairwise Line.Before)
    {line : Line} (isLine : line ∈ entry.1 :: entry.2.lines) :
    line.content.stop ≤ (subtreeSpan entry).stop := by
  let last := entry.2.lines.getLast?.getD entry.1
  obtain ⟨earlier, linesEq⟩ := List.getLast?_eq_some_iff.1
    (List.getLast?_cons : (entry.1 :: entry.2.lines).getLast? = some last)
  rw [linesEq] at ordered isLine
  rcases List.mem_append.1 isLine with isEarlier | isLast
  · have before := (List.pairwise_append.1 ordered).2.2 line isEarlier last
      (List.mem_singleton_self last)
    exact Nat.le_trans (Nat.le_of_lt before.2) last.content.start_le_stop
  · obtain rfl := List.mem_singleton.1 isLast
    exact Nat.le_refl _

/-- What stands on a line is covered by another line with all that is nested under it
exactly if the line is one of these. -/
theorem subtreeSpan_covers_iff (ordered : outline.lines.Pairwise Line.Before)
    (isEntry : entry ∈ outline.levels.flatten) {line : Line} (isLine : line ∈ outline.lines)
    {part : Fragment} (within : part.Within line.content) (notEmpty : part.chars ≠ []) :
    (subtreeSpan entry).Covers part.span ↔ line ∈ entry.1 :: entry.2.lines := by
  obtain ⟨before, after, linesEq⟩ := infix_of_mem_levels isEntry
  rw [← linesEq] at ordered isLine
  obtain ⟨firstOrdered, _, restApart⟩ := List.pairwise_append.1 ordered
  obtain ⟨_, stretchOrdered, beforeApart⟩ := List.pairwise_append.1 firstOrdered
  have bounds := within.bounds
  have inside := Fragment.start_lt_stop notEmpty
  constructor
  · rintro ⟨startLe, stopLe⟩
    rcases List.mem_append.1 isLine with isFirst | isAfter
    · rcases List.mem_append.1 isFirst with isBefore | isStretch
      · -- a line before the stretch ends before it starts
        have gap := (beforeApart line isBefore entry.1 List.mem_cons_self).2
        have : entry.1.content.start ≤ part.start := startLe
        omega
      · exact isStretch
    · -- a line behind the stretch starts behind its last line
      have last := List.mem_of_getLast?
        (List.getLast?_cons : (entry.1 :: entry.2.lines).getLast? = _)
      have gap := (restApart _ (List.mem_append_right before last) line isAfter).2
      have : part.stop ≤ (entry.2.lines.getLast?.getD entry.1).content.stop := stopLe
      omega
  · intro isStretch
    refine ⟨?_, Nat.le_trans bounds.2 (stop_le_subtreeSpan stretchOrdered isStretch)⟩
    refine Nat.le_trans ?_ bounds.1
    rcases List.mem_cons.1 isStretch with rfl | isNested
    · exact Nat.le_refl _
    · have gap := ((List.pairwise_cons.1 stretchOrdered).1 line isNested).2
      exact Nat.le_trans entry.1.content.start_le_stop (Nat.le_of_lt gap)

end Outline

/-! ## Reports of unreachable code -/

theorem mem_tail_of_firstUnreachable? {run : List (Line × Outline)} {entry : Line × Outline}
    (isFirst : firstUnreachable? run = some entry) : entry ∈ run.tail := by
  have isMember := List.mem_of_find?_eq_some isFirst
  exact (List.dropWhile_sublist _).tail.subset isMember

theorem mem_validate_of_adjust? {scene : Scene} {context : CheckContext}
    {options : ValidationOptions} {report : Report} (isReport : report ∈ allReports scene context)
    (kept : report.adjust? options = some report) : report ∈ validate scene context options := by
  rw [validate, List.mem_mergeSort, List.mem_filterMap]
  exact ⟨report, isReport, kept⟩

/-- A report of unreachable code is on a line of the outline that is no entrance. -/
theorem exists_entry_of_unreachable {scene : Scene} {context : CheckContext}
    {options : ValidationOptions} {report : Report}
    (isReport : report ∈ validate scene context options)
    (isUnreachable : report.rule = .unreachableCode) :
    ∃ entry ∈ scene.outline.levels.flatten,
      report.span = Outline.subtreeSpan entry ∧ ¬ entry.1.Enterable := by
  obtain ⟨original, isOriginal, adjusted⟩ :=
    List.mem_filterMap.1 (List.mem_mergeSort.1 isReport)
  obtain ⟨severity, _, rfl⟩ := Option.map_eq_some_iff.1 adjusted
  have sameRule : original.rule = .unreachableCode := isUnreachable
  simp only [allReports, List.mem_append] at isOriginal
  rcases isOriginal with ((isFault | isDeclaration) | isReference) | isWalked
  · obtain ⟨fault, _, rfl⟩ := List.mem_map.1 isFault
    change fault.cause.rule = .unreachableCode at sameRule
    cases causeEq : fault.cause <;> simp [causeEq, FaultCause.rule] at sameRule
  · rcases declarationReports_rule _ _ _ original isDeclaration with ruleEq | ruleEq | ruleEq <;>
      simp [ruleEq] at sameRule
  · obtain ⟨occurrence, _, reportEq⟩ := List.mem_filterMap.1 isReference
    obtain ⟨violation, found, rfl⟩ := Option.map_eq_some_iff.1 reportEq
    change violation.rule = .unreachableCode at sameRule
    have isOnReference := referenceViolation?_onReference found
    simp [sameRule, Rule.isOnReference] at isOnReference
  · have isFirst := (unreachableReports_perm scene.outline).mem_iff.1 isWalked
    obtain ⟨run, isRun, reportEq⟩ := List.mem_filterMap.1 isFirst
    obtain ⟨level, isLevel, isRunOf⟩ := List.mem_flatMap.1 isRun
    obtain ⟨entry, isEntry, rfl⟩ := Option.map_eq_some_iff.1 reportEq
    have inTail := mem_tail_of_firstUnreachable? isEntry
    have inLevel : entry ∈ level := by
      rw [← List.flatten_splitBy (fun _ next => !decide next.1.Enterable) level]
      exact List.mem_flatten.2 ⟨run, isRunOf, List.mem_of_mem_tail inTail⟩
    exact ⟨entry, List.mem_flatten.2 ⟨level, isLevel, inLevel⟩, rfl,
      plain_of_mem_runs isRunOf entry inTail⟩

/-- A report of unreachable code covers a line that is no label and all that is nested
under it.  The labels it covers are those declared on the nested lines; so it covers no
jump target exactly if none of these lines declares a label. -/
theorem unreachable_labels_nested (text : String) (context : CheckContext)
    (options : ValidationOptions) (report : Report)
    (isReport : report ∈ validate (.parse text) context options)
    (isUnreachable : report.rule = .unreachableCode) :
    ∃ entry ∈ (Scene.parse text).outline.levels.flatten,
      report.span = Outline.subtreeSpan entry ∧ entry.1.isLabel = false ∧
        ∀ occurrence ∈ (Scene.parse text).occurrences, occurrence.kind = .label →
          (report.span.Covers occurrence.span ↔
            ∃ line ∈ entry.2.lines, line.isLabel = true ∧ line.number = occurrence.line) := by
  obtain ⟨entry, isEntry, spanEq, notEnterable⟩ :=
    exists_entry_of_unreachable isReport isUnreachable
  have notLabel : entry.1.isLabel = false := by
    have known : entry.1.Known :=
      Scene.known_of_mem_lines ((Outline.infix_of_mem_levels isEntry).subset List.mem_cons_self)
    have isLabelEq : entry.1.isLabel = entry.1.isNamed ["label"] := known.any_eq (by decide)
    rw [isLabelEq, ← Bool.not_eq_true, Line.isNamed_iff]
    rintro ⟨command, commandEq, named⟩
    exact notEnterable (.command command commandEq (by simp [List.mem_singleton.1 named]))
  refine ⟨entry, isEntry, spanEq, notLabel, ?_⟩
  intro occurrence isOccurrence isLabel
  have ordered : (Scene.parse text).outline.lines.Pairwise Line.Before := by
    rw [Scene.outline_lines]
    exact Source.contentLines_pairwise _
  obtain ⟨place, isPlace, role, part, within, notEmpty, rfl⟩ :=
    Scene.occurrence_on_line isOccurrence
  rw [← Scene.outline_lines] at isPlace
  obtain ⟨line, isLine, declares, numberEq⟩ := Scene.exists_label_line isOccurrence isLabel
  obtain rfl : line = place := Scene.line_eq_of_number_eq isLine isPlace numberEq
  have covers := Outline.subtreeSpan_covers_iff ordered isEntry isLine within notEmpty
  rw [spanEq]
  constructor
  · intro isCovered
    rcases List.mem_cons.1 (covers.1 isCovered) with rfl | isNested
    · simp [notLabel] at declares
    · exact ⟨line, isNested, declares, rfl⟩
  · rintro ⟨other, isNested, _, otherNumber⟩
    have isOther := List.mem_cons_of_mem entry.1 isNested
    have inOutline := (Outline.infix_of_mem_levels isEntry).subset isOther
    obtain rfl := Scene.line_eq_of_number_eq inOutline isLine otherNumber
    exact covers.2 isOther

/-- Behind a jump to `a` stand a condition with the label `a` in it and the label `b`.  The
condition is reported up to its end. -/
theorem unreachable_labels_nested_in_condition :
    let scene := Scene.parse "*goto a\n*if true\n  *label a\n*label b"
    let context : CheckContext := ⟨"chapter", .empty⟩
    let report : Report := .ofViolation .unreachableCode ⟨8, 27⟩
    (report ∈ validate scene context {} ∧ report.rule = .unreachableCode) ∧
      ∃ entry ∈ scene.outline.levels.flatten,
        report.span = Outline.subtreeSpan entry ∧ entry.1.isLabel = false ∧
          ∀ occurrence ∈ scene.occurrences, occurrence.kind = .label →
            (report.span.Covers occurrence.span ↔
              ∃ line ∈ entry.2.lines, line.isLabel = true ∧ line.number = occurrence.line) := by
  intro scene context report
  have isFound : report ∈ unreachableReports .live scene.outline := by decide +kernel
  have isReport : report ∈ validate scene context {} :=
    mem_validate_of_adjust? (List.mem_append_right _ isFound) rfl
  exact ⟨⟨isReport, rfl⟩,
    unreachable_labels_nested _ context {} report isReport rfl⟩

/-- The very label a jump leads to can stand in code that is reported as unreachable. -/
theorem unreachable_holds_jump_target :
    let scene := Scene.parse "*goto a\n*if true\n  *label a\n  Hi."
    let context : CheckContext := ⟨"chapter", .empty⟩
    ∃ report ∈ validate scene context {}, report.rule = .unreachableCode ∧
      ∃ target ∈ scene.occurrences, target.kind = .label ∧
        (∃ jump ∈ scene.occurrences, jump.kind = .labelReference ∧ jump.key = target.key) ∧
        report.span.Covers target.span := by
  intro scene context
  let report : Report := .ofViolation .unreachableCode ⟨8, 33⟩
  let jump : Occurrence := ⟨.labelReference, "a", ⟨6, 7⟩, 0⟩
  let target : Occurrence := ⟨.label, "a", ⟨26, 27⟩, 2⟩
  have isFound : report ∈ unreachableReports .live scene.outline := by decide +kernel
  have isReport : report ∈ validate scene context {} :=
    mem_validate_of_adjust? (List.mem_append_right _ isFound) rfl
  have isJump : jump ∈ scene.occurrences := by
    rw [Scene.mem_occurrences_iff]
    decide +kernel
  have isTarget : target ∈ scene.occurrences := by
    rw [Scene.mem_occurrences_iff]
    decide +kernel
  exact ⟨report, isReport, rfl, target, isTarget, rfl, ⟨jump, isJump, rfl, rfl⟩, by decide,
    by decide⟩

end Gamebook
