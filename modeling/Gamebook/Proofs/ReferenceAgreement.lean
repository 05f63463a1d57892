import Gamebook.Proofs.ExportLookup
import Gamebook.Proofs.ScenePlacement

/-!
# Reports on references and where references lead

Whether a name exists is decided twice: by the rules, which ask what is known of
the project, and by the resolution that leads from a name to its declaration.
The two agree.  A reference is reported exactly if it leads nowhere, apart from
what the rules leave open on purpose: names that the game provides or computes,
scenes that are only listed, and projects whose startup scene is unknown.
-/

namespace Gamebook

/-! ## Reports at a place -/

/-- A rule objects to what stands at a span. -/
def Reported (reports : List Report) (rule : Rule) (span : Span) : Prop :=
  ∃ report ∈ reports, report.rule = rule ∧ report.span = span

/-- Whether the rule is about references. -/
def Rule.isOnReference : Rule → Bool
  | undeclaredVariable | undeclaredLabel | unresolvedScene | unresolvedSceneLabel
  | undeclaredAchievement => true
  | _ => false

theorem reported_append_iff {left right : List Report} {rule : Rule} {span : Span} :
    Reported (left ++ right) rule span ↔
      Reported left rule span ∨ Reported right rule span := by
  simp only [Reported, List.mem_append, or_and_right, exists_or]

theorem not_reported_of_rule {reports : List Report} {rule : Rule} {span : Span}
    (isOnReference : rule.isOnReference = true)
    (others : ∀ report ∈ reports, report.rule.isOnReference = false) :
    ¬ Reported reports rule span := by
  rintro ⟨report, isReport, rfl, _⟩
  simp [others report isReport] at isOnReference

theorem FaultCause.rule_not_onReference (cause : FaultCause) :
    cause.rule.isOnReference = false := by
  cases cause <;> rfl

theorem declarationViolations_rule {isStartup : Bool} {first : Option Nat}
    {occurrence : Occurrence} :
    ∀ violation ∈ declarationViolations isStartup first occurrence,
      violation.rule = .duplicateLabel ∨ violation.rule = .duplicateVariable ∨
        violation.rule = .createOutsideStartup := by
  intro violation isViolation
  unfold declarationViolations at isViolation
  split at isViolation
  · obtain ⟨line, _, rfl⟩ := List.mem_map.1 isViolation
    exact .inl rfl
  · rcases List.mem_append.1 isViolation with isCreate | isDuplicate
    · split at isCreate
      · simp at isCreate
      · obtain rfl := List.mem_singleton.1 isCreate
        exact .inr (.inr rfl)
    · obtain ⟨line, _, rfl⟩ := List.mem_map.1 isDuplicate
      exact .inr (.inl rfl)
  · obtain ⟨line, _, rfl⟩ := List.mem_map.1 isViolation
    exact .inr (.inl rfl)
  · simp at isViolation

theorem declarationReports_rule (isStartup : Bool) (seen : List Declared)
    (occurrences : List Occurrence) :
    ∀ report ∈ declarationReports isStartup seen occurrences,
      report.rule = .duplicateLabel ∨ report.rule = .duplicateVariable ∨
        report.rule = .createOutsideStartup := by
  induction occurrences generalizing seen with
  | nil => simp [declarationReports]
  | cons occurrence rest ih =>
      intro report isReport
      simp only [declarationReports] at isReport
      rcases List.mem_append.1 isReport with isHere | isLater
      · obtain ⟨violation, isViolation, rfl⟩ := List.mem_map.1 isHere
        exact declarationViolations_rule violation isViolation
      · exact ih _ report isLater

theorem declarationReports_not_onReference (isStartup : Bool) (seen : List Declared)
    (occurrences : List Occurrence) :
    ∀ report ∈ declarationReports isStartup seen occurrences,
      report.rule.isOnReference = false := by
  intro report isReport
  rcases declarationReports_rule _ _ _ report isReport with ruleEq | ruleEq | ruleEq <;>
    rw [ruleEq] <;> rfl

theorem unreachableReports_rule (reach : Reach) (outline : Outline) :
    ∀ report ∈ unreachableReports reach outline, report.rule = .unreachableCode := by
  induction outline generalizing reach with
  | nil => simp [unreachableReports]
  | entry line nested rest nestedIh restIh =>
      intro report isReport
      simp only [unreachableReports] at isReport
      rcases List.mem_append.1 isReport with isEarlier | isLater
      · rcases List.mem_append.1 isEarlier with isHere | isBelow
        · split at isHere
          · obtain rfl := List.mem_singleton.1 isHere
            rfl
          · simp at isHere
        · exact nestedIh _ report isBelow
      · exact restIh _ report isLater

theorem unreachableReports_not_onReference (reach : Reach) (outline : Outline) :
    ∀ report ∈ unreachableReports reach outline, report.rule.isOnReference = false := by
  intro report isReport
  rw [unreachableReports_rule _ _ report isReport]
  rfl

theorem referenceViolation?_onReference {scene : Scene} {context : CheckContext}
    {occurrence : Occurrence} {violation : Violation}
    (found : referenceViolation? scene context occurrence = some violation) :
    violation.rule.isOnReference = true := by
  unfold referenceViolation? at found
  split at found
  all_goals try split at found
  all_goals cases found
  all_goals rfl

/-- While all rules are on, nothing is left out of the reports. -/
theorem reported_validate_iff {options : ValidationOptions}
    (allOn : ∀ rule, (options.severityFor rule).isSome = true) {scene : Scene}
    {context : CheckContext} {rule : Rule} {span : Span} :
    Reported (validate scene context options) rule span ↔
      Reported (allReports scene context) rule span := by
  simp only [Reported, validate, List.mem_mergeSort, List.mem_filterMap]
  constructor
  · rintro ⟨_, ⟨report, isReport, adjusted⟩, rfl, rfl⟩
    obtain ⟨severity, _, rfl⟩ := Option.map_eq_some_iff.1 adjusted
    exact ⟨report, isReport, rfl, rfl⟩
  · rintro ⟨report, isReport, rfl, rfl⟩
    obtain ⟨severity, severityEq⟩ := Option.isSome_iff_exists.1 (allOn report.rule)
    refine ⟨{ report with severity }, ⟨report, isReport, ?_⟩, rfl, rfl⟩
    rw [Report.adjust?, severityEq]
    rfl

theorem Scene.occurrence_eq_of_span_eq {scene : Scene} {first second : Occurrence}
    (isFirst : first ∈ scene.occurrences) (isSecond : second ∈ scene.occurrences)
    (spanEq : first.span = second.span) : first = second := by
  by_contra different
  have := span_start_lt_stop isFirst
  rcases before_or_behind scene.occurrences_pairwise isFirst isSecond different with
    before | behind
  · have := before.1
    rw [← spanEq] at this
    omega
  · have := behind.1
    rw [← spanEq] at this
    omega

/-- What the rules about references report at an occurrence is what is wrong with
this occurrence: no other one has its span. -/
theorem reported_reference_iff {options : ValidationOptions}
    (allOn : ∀ rule, (options.severityFor rule).isSome = true) {scene : Scene}
    {context : CheckContext} {occurrence : Occurrence}
    (isOccurrence : occurrence ∈ scene.occurrences) {rule : Rule}
    (isOnReference : rule.isOnReference = true) :
    Reported (validate scene context options) rule occurrence.span ↔
      (referenceViolation? scene context occurrence).map (·.rule) = some rule := by
  have noFault : ∀ report ∈ scene.faults.map fun fault =>
      Report.ofViolation (.fault fault.cause) fault.span,
      report.rule.isOnReference = false := by
    intro report isReport
    obtain ⟨fault, _, rfl⟩ := List.mem_map.1 isReport
    exact fault.cause.rule_not_onReference
  rw [reported_validate_iff allOn, allReports, reported_append_iff, reported_append_iff,
    reported_append_iff]
  simp only [not_reported_of_rule isOnReference noFault,
    not_reported_of_rule isOnReference (declarationReports_not_onReference _ _ _),
    not_reported_of_rule isOnReference (unreachableReports_not_onReference _ _),
    false_or, or_false]
  constructor
  · rintro ⟨report, isReport, rfl, spanEq⟩
    -- the report may come from another occurrence, but none has the same span
    obtain ⟨other, isOther, reportEq⟩ := List.mem_filterMap.1 isReport
    obtain ⟨violation, violationEq, rfl⟩ := Option.map_eq_some_iff.1 reportEq
    obtain rfl := scene.occurrence_eq_of_span_eq isOther isOccurrence spanEq
    rw [violationEq]
    rfl
  · intro ruleEq
    obtain ⟨violation, violationEq, rfl⟩ := Option.map_eq_some_iff.1 ruleEq
    refine ⟨.ofViolation violation occurrence.span, ?_, rfl, rfl⟩
    exact List.mem_filterMap.2 ⟨occurrence, isOccurrence, by rw [violationEq]; rfl⟩

/-! ## What the rules ask and where names lead -/

section Resolution

variable {snapshot : ProjectSnapshot} {origin : SceneEntry} {occurrence : Occurrence}

theorem objection_iff {declared : Bool} {violation : Violation} :
    (if declared = true then none else some violation).map (·.rule) = some violation.rule ↔
      declared = false := by
  cases declared <;> simp

theorem contains_eq_false_iff {table : Std.TreeMap String Occurrence} {key : String} :
    table.contains key = false ↔ table[key]? = none := by
  rw [Std.TreeMap.contains_eq_isSome_getElem?, Option.isSome_eq_false_iff,
    Option.isNone_iff_eq_none]

theorem undeclaredVariable_iff {key : String} :
    isDeclaredVariable origin.scene snapshot.scope key = false ↔
      snapshot.startup?.isSome = true ∧ isBuiltinVariable key = false ∧
        snapshot.resolve? origin (.var key) = none := by
  simp only [isDeclaredVariable, ProjectSnapshot.scope, ProjectSnapshot.resolve?,
    ProjectSnapshot.resolveVariable?]
  cases ownEq : origin.scene.findVariable? key with
  | some own => simp
  | none =>
      cases startupEq : snapshot.startup? with
      | none => simp
      | some startup => simp [contains_eq_false_iff]

theorem undeclaredAchievement_iff {key : String} :
    isDeclaredAchievement origin.scene snapshot.scope key = false ↔
      snapshot.startup?.isSome = true ∧
        snapshot.resolve? origin (.achievement key) = none := by
  simp only [isDeclaredAchievement, ProjectSnapshot.scope, ProjectSnapshot.resolve?,
    ProjectSnapshot.resolveAchievement?, origin.getElem?_achievements]
  cases ownEq : origin.scene.findDeclaration? .achievement key with
  | some own => simp
  | none =>
      cases startupEq : snapshot.startup? with
      | none => simp
      | some startup => simp [contains_eq_false_iff]

theorem resolve?_own_label (key : String) :
    snapshot.resolve? origin (.label origin.name key) = none ↔
      origin.scene.findDeclaration? .label key = none := by
  simp [ProjectSnapshot.resolve?, ProjectSnapshot.sceneFrom?, origin.getElem?_labels]

theorem undeclaredLabel_iff (ignoresCase : occurrence.kind.ignoresCase = true) :
    (origin.scene.findLabel? occurrence.name).isSome = false ↔
      snapshot.resolve? origin (.label origin.name occurrence.key) = none := by
  rw [resolve?_own_label, Occurrence.key_eq_toLower ignoresCase, Option.isSome_eq_false_iff,
    Option.isNone_iff_eq_none]
  rfl

theorem missingLabel_iff (ignoresCase : occurrence.kind.ignoresCase = true)
    {target : String} :
    isMissingLabel origin.scene ⟨origin.name, snapshot.scope⟩ target occurrence = true ↔
      snapshot.resolve? origin (.label target occurrence.key) = none ∧
        (target = origin.name ∨ (snapshot.scene? target).isSome = true) := by
  rw [isMissingLabel]
  by_cases isOwn : target = origin.name
  · rw [if_pos isOwn, isOwn, ← undeclaredLabel_iff ignoresCase]
    simp
  · rw [if_neg isOwn]
    simp only [ProjectSnapshot.scope, ProjectSnapshot.resolve?, ProjectSnapshot.sceneFrom?,
      isOwn, if_false, false_or]
    cases targetEq : snapshot.scene? target with
    | none => simp
    | some entry => simp [contains_eq_false_iff]

theorem unresolvedScene_iff {name : String} :
    isExistingScene origin.scene ⟨origin.name, snapshot.scope⟩ name = false ↔
      snapshot.resolve? origin (.scene name) = none ∧ name.toList.head? ≠ some '{' ∧
        name ∉ origin.scene.sceneList.map (·.name) ∧
        ∀ startup, snapshot.startup? = some startup →
          name ∉ startup.scene.sceneList.map (·.name) := by
  have hasScene : snapshot.scope.hasScene name = false ↔
      snapshot.scene? name = none ∧ ∀ startup, snapshot.startup? = some startup →
        name ∉ startup.scene.sceneList.map (·.name) := by
    rw [← Bool.not_eq_true, ProjectSnapshot.scope, ProjectSnapshot.contains_sceneNames_iff]
    simp
  have listed : (origin.scene.sceneList.any fun row => row.name == name) = false ↔
      name ∉ origin.scene.sceneList.map (·.name) := by
    simp
  have leads : snapshot.resolve? origin (.scene name) = none ↔
      name ≠ origin.name ∧ snapshot.scene? name = none := by
    by_cases isOwn : name = origin.name <;>
      simp [isOwn, ProjectSnapshot.resolve?, ProjectSnapshot.sceneFrom?]
  simp only [isExistingScene, Bool.or_eq_false_iff, beq_eq_false_iff_ne, hasScene, listed, leads]
  constructor
  · rintro ⟨⟨⟨notComputed, notOwn⟩, notListed⟩, notIndexed, notInStartup⟩
    exact ⟨⟨notOwn, notIndexed⟩, notComputed, notListed, notInStartup⟩
  · rintro ⟨⟨notOwn, notIndexed⟩, notComputed, notListed, notInStartup⟩
    exact ⟨⟨⟨notComputed, notOwn⟩, notListed⟩, notIndexed, notInStartup⟩

end Resolution

/-- The declaration that an occurrence of a scene leads to. -/
def ProjectSnapshot.declarationOf? (snapshot : ProjectSnapshot) (origin : SceneEntry)
    (occurrence : Occurrence) : Option Declaration :=
  (Symbol.of? origin.name occurrence).bind (snapshot.resolve? origin)

/-- With all rules on, a reference in a document is reported exactly if it leads to
no declaration, unless the rules leave it open: variables that the game provides,
variables and achievements while the startup scene is unknown, labels of scenes that
are unknown, and scenes whose names are computed or listed.  Nothing but a reference
is reported in this way. -/
theorem validate_agrees_with_resolve (index : ProjectIndex) (document : Document)
    (options : ValidationOptions)
    (allOn : ∀ rule, (options.severityFor rule).isSome = true) (occurrence : Occurrence)
    (isOccurrence : occurrence ∈ document.scene.occurrences) :
    let snapshot := index.around document
    let origin := SceneEntry.ofDocument document
    let reports := validate document.scene ⟨origin.name, snapshot.scope⟩ options
    let leadsNowhere := snapshot.declarationOf? origin occurrence = none
    snapshot.document? document.uri = some origin ∧
      match occurrence.role with
      | .variableRead | .variableWrite =>
          Reported reports .undeclaredVariable occurrence.span ↔
            snapshot.startup?.isSome = true ∧ isBuiltinVariable occurrence.key = false ∧
              leadsNowhere
      | .achievementReference =>
          Reported reports .undeclaredAchievement occurrence.span ↔
            snapshot.startup?.isSome = true ∧ leadsNowhere
      | .labelReference =>
          Reported reports .undeclaredLabel occurrence.span ↔ leadsNowhere
      | .sceneLabelReference target =>
          Reported reports .unresolvedSceneLabel occurrence.span ↔
            leadsNowhere ∧ (target = origin.name ∨ (snapshot.scene? target).isSome = true)
      | .sceneReference false =>
          Reported reports .unresolvedScene occurrence.span ↔
            leadsNowhere ∧ occurrence.name.toList.head? ≠ some '{' ∧
              occurrence.name ∉ document.scene.sceneList.map (·.name) ∧
              ∀ startup, snapshot.startup? = some startup →
                occurrence.name ∉ startup.scene.sceneList.map (·.name)
      | _ => ∀ rule, rule.isOnReference = true → ¬ Reported reports rule occurrence.span := by
  intro snapshot origin reports leadsNowhere
  refine ⟨index.document?_around document, ?_⟩
  have reported {rule : Rule} (isOnReference : rule.isOnReference = true) :
      Reported reports rule occurrence.span ↔
        (referenceViolation? origin.scene ⟨origin.name, snapshot.scope⟩ occurrence).map
          (·.rule) = some rule :=
    reported_reference_iff allOn isOccurrence isOnReference
  have nowhere {symbol : Symbol} (symbolEq : Symbol.of? origin.name occurrence = some symbol) :
      leadsNowhere ↔ snapshot.resolve? origin symbol = none := by
    rw [← Option.bind_some symbol (snapshot.resolve? origin), ← symbolEq]
    rfl
  cases roleEq : occurrence.role with
  | variableRead =>
      simp only
      rw [reported rfl, nowhere (by rw [Symbol.of?, roleEq]), ← undeclaredVariable_iff,
        referenceViolation?, roleEq]
      exact objection_iff
  | variableWrite =>
      simp only
      rw [reported rfl, nowhere (by rw [Symbol.of?, roleEq]), ← undeclaredVariable_iff,
        referenceViolation?, roleEq]
      exact objection_iff
  | achievementReference =>
      simp only
      rw [reported rfl, nowhere (by rw [Symbol.of?, roleEq]), ← undeclaredAchievement_iff,
        referenceViolation?, roleEq]
      exact objection_iff
  | labelReference =>
      have ignoresCase : occurrence.kind.ignoresCase = true := by
        simp [Occurrence.kind, roleEq, Role.kind, OccurrenceKind.ignoresCase]
      simp only
      rw [reported rfl, nowhere (by rw [Symbol.of?, roleEq]), ← undeclaredLabel_iff ignoresCase,
        referenceViolation?, roleEq]
      exact objection_iff
  | sceneLabelReference target =>
      have ignoresCase : occurrence.kind.ignoresCase = true := by
        simp [Occurrence.kind, roleEq, Role.kind, OccurrenceKind.ignoresCase]
      simp only
      rw [reported rfl, nowhere (by rw [Symbol.of?, roleEq]), ← missingLabel_iff ignoresCase,
        referenceViolation?, roleEq]
      simp only
      split <;> simp_all [Violation.rule]
  | sceneReference listed =>
      cases listed with
      | false =>
          simp only
          rw [reported rfl, nowhere (by rw [Symbol.of?, roleEq]), referenceViolation?, roleEq]
          exact objection_iff.trans unresolvedScene_iff
      | true =>
          intro rule isOnReference
          rw [reported isOnReference]
          simp [referenceViolation?, roleEq]
  | _ =>
      intro rule isOnReference
      rw [reported isOnReference]
      simp [referenceViolation?, roleEq]

/-- A misspelt variable leads nowhere although the startup scene declares one of
nearly the same name, and is reported. -/
theorem misspelt_variable_reported :
    let index := ProjectIndex.update {}
      [.ofText "file:///game/startup.txt" 1 "*create Courage 10"]
    let document := Document.ofText "file:///game/chapter.txt" 1 "*if (corage > 1)"
    let occurrence : Occurrence := ⟨.variableRead, "corage", ⟨5, 11⟩, 0⟩
    (∀ rule, (ValidationOptions.severityFor {} rule).isSome = true) ∧
      occurrence ∈ document.scene.occurrences ∧
      Reported
        (validate document.scene ⟨document.uri.sceneName, (index.around document).scope⟩ {})
        .undeclaredVariable occurrence.span := by
  intro index document occurrence
  have allOn : ∀ rule, (ValidationOptions.severityFor {} rule).isSome = true := by decide
  have isOccurrence : occurrence ∈ document.scene.occurrences := by decide +kernel
  have nowhere : (index.around document).declarationOf? (.ofDocument document) occurrence =
      none := Option.isNone_iff_eq_none.1 (by decide +kernel)
  have agrees := validate_agrees_with_resolve index document {} allOn occurrence isOccurrence
  exact ⟨allOn, isOccurrence,
    agrees.2.2 ⟨by decide +kernel, by decide +kernel, nowhere⟩⟩

end Gamebook
