import Mathlib.Data.List.Basic
import Gamebook.Proofs.DiagnosticsIndependence

/-!
# Switches of rules

The options decide which rules report and how severely.  No rule looks at them:
what is wrong with a scene is found first, and the options then drop or relabel
the reports one by one.  Sorting by place is stable, so this can as well be done to
the sorted reports of a run in which every rule is on.
-/

namespace Gamebook

section StableSorting

variable {Item : Type} {le : Item → Item → Bool}

theorem filterMap_eq_map_filter (change? : Item → Option Item) (items : List Item) :
    items.filterMap change? =
      (items.filter fun item => (change? item).isSome).map fun item =>
        (change? item).getD item := by
  induction items with
  | nil => rfl
  | cons item rest ih => cases changed : change? item <;> simp [changed, ih]

/-- Items that are dropped or changed without changing their order can be sorted before. -/
theorem filterMap_mergeSort
    (trans : ∀ first second third, le first second = true → le second third = true →
      le first third = true)
    (total : ∀ first second, (le first second || le second first) = true)
    {change? : Item → Option Item}
    (keepsOrder : ∀ first second firstNew secondNew, change? first = some firstNew →
      change? second = some secondNew → le first second = le firstNew secondNew)
    (items : List Item) :
    (items.mergeSort le).filterMap change? = (items.filterMap change?).mergeSort le := by
  rw [filterMap_eq_map_filter, filterMap_eq_map_filter, filter_mergeSort trans total]
  apply List.map_mergeSort
  intro first isFirst second isSecond
  obtain ⟨firstNew, firstEq⟩ := Option.isSome_iff_exists.1 (List.mem_filter.1 isFirst).2
  obtain ⟨secondNew, secondEq⟩ := Option.isSome_iff_exists.1 (List.mem_filter.1 isSecond).2
  rw [firstEq, secondEq]
  exact keepsOrder first second firstNew secondNew firstEq secondEq

end StableSorting

theorem Report.span_of_adjust? {options : ValidationOptions} {report adjusted : Report}
    (isAdjusted : report.adjust? options = some adjusted) : adjusted.span = report.span := by
  obtain ⟨severity, _, rfl⟩ := Option.map_eq_some_iff.1 isAdjusted
  rfl

/-- Dropping and relabelling may come before or after sorting. -/
theorem filterMap_adjust?_mergeSort (options : ValidationOptions) (reports : List Report) :
    (reports.mergeSort fun first second => first.span.start ≤ second.span.start).filterMap
        (Report.adjust? options) =
      (reports.filterMap (Report.adjust? options)).mergeSort
        fun first second => first.span.start ≤ second.span.start := by
  apply filterMap_mergeSort
  · intro first second third
    simp only [decide_eq_true_eq]
    omega
  · intro first second
    simp only [Bool.or_eq_true, decide_eq_true_eq]
    omega
  · intro first second firstNew secondNew firstEq secondEq
    rw [Report.span_of_adjust? firstEq, Report.span_of_adjust? secondEq]

/-- Every rule that can be configured is on. -/
structure ValidationOptions.ChecksAll (options : ValidationOptions) : Prop where
  validate : options.validate = true
  lints : options.lint.enabled = true
  levels : ∀ rule ∈ Rule.configurable, options.lint.level rule ≠ .ignore

theorem ValidationOptions.ChecksAll.severityFor {options : ValidationOptions}
    (checksAll : options.ChecksAll) {rule : Rule} (notSpelling : rule ≠ .badSpelling) :
    ∃ severity, options.severityFor rule = some severity := by
  have isConfigurable : rule ∈ Rule.configurable :=
    List.mem_filter.2 ⟨rule.mem_all, bne_iff_ne.2 notSpelling⟩
  have notIgnored := checksAll.levels rule isConfigurable
  rw [ValidationOptions.severityFor, checksAll.validate, checksAll.lints]
  cases levelEq : options.lint.level rule with
  | ignore => exact absurd levelEq notIgnored
  | _ => simp [Level.severity?]

/-- Options applied to what other options have relabelled see the same rules. -/
theorem Report.adjust?_adjust? {full options : ValidationOptions} (checksAll : full.ChecksAll)
    {report : Report} (notSpelling : report.rule ≠ .badSpelling) :
    (report.adjust? full).bind (Report.adjust? options) = report.adjust? options := by
  obtain ⟨severity, severityEq⟩ := checksAll.severityFor notSpelling
  rw [Report.adjust?, severityEq]
  rfl

/-- What options leave of a scene's reports is what they leave of the full list. -/
theorem validate_eq_filterMap (scene : Scene) (context : CheckContext)
    {full : ValidationOptions} (checksAll : full.ChecksAll) (options : ValidationOptions) :
    validate scene context options =
      (validate scene context full).filterMap (Report.adjust? options) := by
  have sameReports : (allReports scene context).filterMap (Report.adjust? options) =
      ((allReports scene context).filterMap (Report.adjust? full)).filterMap
        (Report.adjust? options) := by
    rw [List.filterMap_filterMap]
    apply List.filterMap_congr
    intro report isReport
    exact (Report.adjust?_adjust? checksAll (allReports_rule report isReport)).symm
  rw [validate, validate, filterMap_adjust?_mergeSort, sameReports]

theorem ValidationOptions.severityFor_setLevel {options : ValidationOptions} {rule other : Rule}
    (isOther : other ≠ rule) (level : Level) :
    ({ options with lint := options.lint.setLevel rule level } : ValidationOptions).severityFor
      other = options.severityFor other := by
  simp [ValidationOptions.severityFor, LintOptions.setLevel, isOther]

/-- A scene's reports under some options are the reports with every rule on, in the
same order, without those of rules that are off and with the others at the severity
of their rule.  The level of one rule changes nothing about the reports of others. -/
theorem switches_only_filter (scene : Scene) (context : CheckContext)
    (full : ValidationOptions) (checksAll : full.ChecksAll) (options : ValidationOptions) :
    validate scene context options =
        (validate scene context full).filterMap (fun report =>
          (options.severityFor report.rule).map fun severity => { report with severity }) ∧
      ∀ rule level,
        (validate scene context
            { options with lint := options.lint.setLevel rule level }).filter (·.rule != rule) =
          (validate scene context options).filter (·.rule != rule) := by
  refine ⟨validate_eq_filterMap scene context checksAll options, ?_⟩
  intro rule level
  rw [validate_eq_filterMap scene context checksAll,
    validate_eq_filterMap scene context checksAll options, List.filter_filterMap,
    List.filter_filterMap]
  apply List.filterMap_congr
  intro report _
  by_cases isRule : report.rule = rule
  · -- whatever its level, the rule's own reports are not looked at
    have dropped (others : ValidationOptions) :
        (report.adjust? others).filter (·.rule != rule) = none := by
      cases severityEq : others.severityFor report.rule with
      | none => simp [Report.adjust?, severityEq]
      | some severity => simp [Report.adjust?, Report.rule, ← isRule]
    rw [dropped, dropped]
  · rw [Report.adjust?, Report.adjust?, ValidationOptions.severityFor_setLevel isRule]

/-- A choice without options that cannot be reached is reported twice at one place: with
the lints off only the empty choice is left, here as a hint. -/
theorem switches_only_filter_at_one_place :
    let scene := Scene.parse "*finish\n*choice"
    let context : CheckContext := ⟨"chapter", .empty⟩
    let options : ValidationOptions :=
      { lint := { LintOptions.setLevel {} .emptyBlock .hint with enabled := false } }
    let empty : Violation := .fault (.emptyBlock "*choice")
    (ValidationOptions.ChecksAll {} ∧
      validate scene context {} =
        [⟨empty, ⟨8, 15⟩, .error⟩, ⟨.unreachableCode, ⟨8, 15⟩, .warning⟩]) ∧
    validate scene context options = [⟨empty, ⟨8, 15⟩, .hint⟩] := by
  intro scene context options empty
  have checksAll : ValidationOptions.ChecksAll {} := ⟨rfl, rfl, by decide⟩
  have found : (allReports scene context).filterMap (Report.adjust? {}) =
      [⟨empty, ⟨8, 15⟩, .error⟩, ⟨.unreachableCode, ⟨8, 15⟩, .warning⟩] := by
    decide +kernel
  have full : validate scene context {} =
      [⟨empty, ⟨8, 15⟩, .error⟩, ⟨.unreachableCode, ⟨8, 15⟩, .warning⟩] := by
    rw [validate, found]
    exact List.mergeSort_of_pairwise (by decide)
  refine ⟨⟨checksAll, full⟩, ?_⟩
  rw [(switches_only_filter scene context {} checksAll options).1, full]
  decide

end Gamebook
