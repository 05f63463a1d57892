import Gamebook.Proofs.OutlinePlaces
import Gamebook.Proofs.WordFindings

/-!
# Faults of lines

Some faults are about words: a name that is none, a string literal or an
interpolation that does not end.  The other faults are about how lines stand to
each other.  Since words are only found to have faults of the first kind, the
others come from the few tests that a line is put to as a whole, and only the
comparison of neighbouring lines finds that their indentation differs.
-/

namespace Gamebook

@[simp]
theorem Finding.wrong_inj {cause other : FaultCause} {span place : Span} :
    wrong cause span = wrong other place ↔ cause = other ∧ span = place := by
  simp [wrong]

theorem Finding.fault?_eq_some_iff {finding : Finding} {cause : FaultCause} {span : Span} :
    finding.fault? = some ⟨cause, span⟩ ↔ finding = .wrong cause span := by
  cases finding <;> simp [fault?, wrong]

theorem wrong_notMem_of_inWords {findings : List Finding} {cause : FaultCause} {span : Span}
    (notWording : ¬ cause.IsWording)
    (inWords : ∀ finding ∈ findings, finding.InWords True fun _ => True) :
    .wrong cause span ∉ findings := by
  intro isFinding
  exact notWording ((inWords _ isFinding).isWording rfl)

section Layout

variable {cause : FaultCause} {span : Span} {surroundings : Surroundings}
  {previous : Option Command} {command : Command} {arguments : Fragment} {option : OptionLine}
  {line : Line} {nested : Outline}

theorem wrong_mem_unexpectedFindings_iff :
    .wrong cause span ∈ unexpectedFindings nested ↔
      cause = .unexpectedIndent ∧ ∃ first ∈ nested.first?, span = first.span := by
  cases nested with
  | nil => simp [unexpectedFindings, Outline.first?]
  | entry first _ _ => simp [unexpectedFindings, Outline.first?]

theorem wrong_mem_bodyFindings_iff (notWording : ¬ cause.IsWording) :
    .wrong cause span ∈ bodyFindings command line nested ↔
      (command.body = .none ∧ .wrong cause span ∈ unexpectedFindings nested) ∨
        (cause = .emptyBlock ("*" ++ command.name) ∧ span = line.span ∧
          ((∃ fake, command.body = .options fake) ∧ nested.hasOption = false ∨
            (∃ place, command.body = .branch place) ∧ nested.isEmpty = true)) := by
  cases bodyEq : command.body with
  | none => simp [bodyFindings, bodyEq]
  | nested => simp [bodyFindings, bodyEq]
  | remark => simp [bodyFindings, bodyEq]
  | options fake =>
      cases hasOption : nested.hasOption <;> simp [bodyFindings, bodyEq, hasOption]
  | branch place =>
      cases isEmpty : nested.isEmpty <;> simp [bodyFindings, bodyEq, isEmpty]
  | scenes listed =>
      have notMem : .wrong cause span ∉ sceneRowFindings listed nested.roots :=
        wrong_notMem_of_inWords notWording fun _ => inWords_of_mem_sceneRowFindings
      simpa [bodyFindings, bodyEq] using notMem
  | chart =>
      have notMem : .wrong cause span ∉ chartFindings nested :=
        wrong_notMem_of_inWords notWording fun _ => inWords_of_mem_chartFindings
      simpa [bodyFindings, bodyEq] using notMem

theorem wrong_mem_commandFindings_iff (notWording : ¬ cause.IsWording) :
    .wrong cause span ∈ commandFindings previous command arguments line nested ↔
      (cause = .missingArgument command.name ∧ span = line.span ∧
          command.needsArgument = true ∧ arguments.isEmpty = true) ∨
        (cause = .orphanElse command.name ∧ span = line.span ∧
          command.continuesChain = true ∧ previous.any (·.admitsBranch) = false) ∨
        .wrong cause span ∈ bodyFindings command line nested := by
  have reading := Reading.ofArguments line.number arguments command.arguments
  have notArgument : .wrong cause span ∉ argumentFindings line.number arguments command.arguments :=
    wrong_notMem_of_inWords notWording (reading.inWords fun _ => trivial)
  simp only [commandFindings, List.mem_append, notArgument, or_false, List.mem_ite_nil_right,
    List.mem_singleton, Finding.wrong_inj, Bool.and_eq_true, Bool.not_eq_true']
  grind

theorem wrong_mem_optionFindings_iff (notWording : ¬ cause.IsWording) :
    .wrong cause span ∈ optionFindings surroundings option line nested ↔
      span = line.span ∧
        (cause = .optionOutsideChoice ∧ surroundings = .outside ∨
          cause = .emptyBlock "#option" ∧ surroundings = .inChoice false ∧
            nested.isEmpty = true) := by
  have notCondition : .wrong cause span ∉
      option.condition.toList.flatMap (expressionFindings line.number) := by
    refine wrong_notMem_of_inWords notWording fun finding inCondition => ?_
    obtain ⟨condition, _, isFound⟩ := List.mem_flatMap.1 inCondition
    exact inWords_of_mem_expressionFindings isFound
  have notText : .wrong cause span ∉ proseFindings line.number true option.text :=
    wrong_notMem_of_inWords notWording fun _ => inWords_of_mem_proseFindings
  have outside : surroundings.admitsOptions = false ↔ surroundings = .outside := by
    cases surroundings <;> simp [Surroundings.admitsOptions]
  simp only [optionFindings, List.mem_append, notCondition, notText, or_false,
    List.mem_ite_nil_right, List.mem_ite_nil_left, List.mem_singleton, Finding.wrong_inj,
    Bool.not_eq_true, outside]
  grind

/-- What a line is at fault for, but for its words, goes by its kind. -/
theorem wrong_mem_lineFindings_iff_of_kind (notWording : ¬ cause.IsWording) :
    .wrong cause span ∈ lineFindings surroundings previous line nested ↔
      match line.kind with
      | .command command arguments =>
          .wrong cause span ∈ commandFindings previous command arguments line nested
      | .option option => .wrong cause span ∈ optionFindings surroundings option line nested
      | .prose => .wrong cause span ∈ unexpectedFindings nested
      | .unknown name =>
          cause = .unknownCommand name.text.toLower ∧ span = unknownSpan line name := by
  have notProse : .wrong cause span ∉ proseFindings line.number true line.content :=
    wrong_notMem_of_inWords notWording fun _ => inWords_of_mem_proseFindings
  cases kindEq : line.kind with
  | command command arguments => rw [lineFindings, kindEq]
  | option option => rw [lineFindings, kindEq]
  | prose => simp only [lineFindings, kindEq, List.mem_append, notProse, false_or]
  | unknown name => simp only [lineFindings, kindEq, List.mem_singleton, Finding.wrong_inj]

/-- No line by itself is found to be indented differently. -/
theorem inconsistentIndent_notMem_lineFindings :
    .wrong .inconsistentIndent span ∉ lineFindings surroundings previous line nested := by
  have notWording : ¬ FaultCause.inconsistentIndent.IsWording := id
  rw [wrong_mem_lineFindings_iff_of_kind notWording]
  cases line.kind with
  | command command arguments =>
      simp [wrong_mem_commandFindings_iff notWording, wrong_mem_bodyFindings_iff notWording,
        wrong_mem_unexpectedFindings_iff]
  | option option => simp [wrong_mem_optionFindings_iff notWording]
  | prose => simp [wrong_mem_unexpectedFindings_iff]
  | unknown name => simp

end Layout

theorem Outline.inconsistentIndent_notMem_findings (outline : Outline) (span : Span) :
    .wrong .inconsistentIndent span ∉ outline.findings .outside none := by
  intro isFinding
  obtain ⟨place, _, surroundings, previous, isFound⟩ := exists_place_of_mem_findings isFinding
  exact inconsistentIndent_notMem_lineFindings isFound

end Gamebook
