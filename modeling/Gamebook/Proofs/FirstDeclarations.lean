import Gamebook.Proofs.ReferenceAgreement
import Mathlib.Data.List.Basic

/-!
# The first declaration of a name

A name may be declared more than once.  Three readers of a scene have to choose
among its declarations: the search for a name, the tables of what the scene
exports, and the rule that reports names declared twice.  Each of them goes
through the occurrences on its own.  All of them settle on the declaration that
stands first in the text.
-/

namespace Gamebook

namespace Scene

variable {scene : Scene} {kind : OccurrenceKind} {key : String}
  {first occurrence : Occurrence}

/-- Of the occurrences of a kind with a key, the one that stands first in the text. -/
structure FirstOf (scene : Scene) (kind : OccurrenceKind) (key : String)
    (first : Occurrence) : Prop where
  mem : first ∈ scene.occurrences
  kind_eq : first.kind = kind
  key_eq : first.key = key
  start_le : ∀ other ∈ scene.occurrences, other.kind = kind → other.key = key →
    first.span.start ≤ other.span.start

/-- The occurrence declares a name again that `first` has declared before it. -/
def Repeats (scene : Scene) (first occurrence : Occurrence) : Prop :=
  occurrence ∈ scene.occurrences ∧ occurrence ≠ first ∧
    scene.FirstOf occurrence.kind occurrence.key first

theorem occurrences_nodup (scene : Scene) : scene.occurrences.Nodup := by
  apply scene.occurrences_pairwise.imp_of_mem
  rintro first second isFirst _ before rfl
  have := span_start_lt_stop isFirst
  have := before.1
  omega

theorem occurrence_eq_of_start_eq {second : Occurrence} (isFirst : first ∈ scene.occurrences)
    (isSecond : second ∈ scene.occurrences)
    (startEq : first.span.start = second.span.start) : first = second := by
  by_contra different
  have := span_start_lt_stop isFirst
  have := span_start_lt_stop isSecond
  rcases before_or_behind scene.occurrences_pairwise isFirst isSecond different with
    before | behind
  · have := before.1
    omega
  · have := behind.1
    omega

theorem FirstOf.unique {second : Occurrence} (isFirst : scene.FirstOf kind key first)
    (isSecond : scene.FirstOf kind key second) : first = second := by
  apply occurrence_eq_of_start_eq isFirst.mem isSecond.mem
  have := isFirst.start_le second isSecond.mem isSecond.kind_eq isSecond.key_eq
  have := isSecond.start_le first isFirst.mem isFirst.kind_eq isFirst.key_eq
  omega

/-! ## Searching -/

theorem firstOf_of_findDeclaration? (found : scene.findDeclaration? kind key = some first) :
    scene.FirstOf kind key first := by
  obtain ⟨satisfies, before, after, occurrencesEq, unlike⟩ :=
    List.find?_eq_some_iff_append.1 found
  simp only [Bool.and_eq_true, beq_iff_eq] at satisfies
  refine ⟨by simp [occurrencesEq], satisfies.1, satisfies.2, ?_⟩
  intro other isOther kindEq keyEq
  have ordered := scene.occurrences_pairwise
  rw [occurrencesEq] at isOther ordered
  rcases List.mem_append.1 isOther with isBefore | isLater
  · have := unlike other isBefore
    simp [kindEq, keyEq] at this
  · rcases List.mem_cons.1 isLater with rfl | isAfter
    · exact Nat.le_refl _
    · have isFound : first ∈ scene.occurrences := by simp [occurrencesEq]
      have := span_start_lt_stop isFound
      have := ((List.pairwise_cons.1 (List.pairwise_append.1 ordered).2.1).1 other isAfter).1
      omega

/-- A search for a kind and a key finds the first declaration. -/
theorem findDeclaration?_eq_some_iff :
    scene.findDeclaration? kind key = some first ↔ scene.FirstOf kind key first := by
  constructor
  · exact firstOf_of_findDeclaration?
  · intro isFirst
    cases foundEq : scene.findDeclaration? kind key with
    | none =>
        have unlike := List.find?_eq_none.1 foundEq first isFirst.mem
        simp [isFirst.kind_eq, isFirst.key_eq] at unlike
    | some found =>
        rw [isFirst.unique (firstOf_of_findDeclaration? foundEq)]

theorem findDeclaration?_eq_none_iff :
    scene.findDeclaration? kind key = none ↔
      ∀ other ∈ scene.occurrences, other.kind = kind → other.key ≠ key := by
  simp [findDeclaration?, List.find?_eq_none]

/-- Variables of the scene hide those of the whole game. -/
theorem findVariable?_eq_some_iff {name : String} :
    scene.findVariable? name = some first ↔
      scene.FirstOf .localVariable name.toLower first ∨
        (∀ other ∈ scene.occurrences, other.kind = .localVariable →
            other.key ≠ name.toLower) ∧
          scene.FirstOf .globalVariable name.toLower first := by
  rw [findVariable?, Option.or_eq_some_iff, findDeclaration?_eq_some_iff,
    findDeclaration?_eq_none_iff, findDeclaration?_eq_some_iff]

/-- The first declaration of the name that an occurrence declares again. -/
def repeated? (scene : Scene) (occurrence : Occurrence) : Option Occurrence :=
  (scene.findDeclaration? occurrence.kind occurrence.key).filter (· ≠ occurrence)

theorem repeated?_eq_some_iff (isOccurrence : occurrence ∈ scene.occurrences) :
    scene.repeated? occurrence = some first ↔ scene.Repeats first occurrence := by
  rw [repeated?, Option.filter_eq_some_iff, findDeclaration?_eq_some_iff, Repeats]
  simp only [isOccurrence, true_and, ne_eq, decide_not, Bool.not_eq_true', decide_eq_false_iff_not]
  rw [and_comm, eq_comm]

end Scene

/-! ## Reporting -/

/-- What is remembered of the declarations passed so far is the line of the first of
each kind and key. -/
def Remembers (seen : List Declared) (passed : List Occurrence) : Prop :=
  ∀ kind key, Declared.line? seen kind key =
    (passed.find? fun occurrence => occurrence.kind == kind && occurrence.key == key).map (·.line)

theorem Remembers.pass {seen : List Declared} {passed : List Occurrence}
    (remembers : Remembers seen passed) (occurrence : Occurrence) :
    Remembers
      (if (Declared.line? seen occurrence.kind occurrence.key).isSome then seen
        else seen ++ [⟨occurrence.kind, occurrence.key, occurrence.line⟩])
      (passed ++ [occurrence]) := by
  intro kind key
  rw [List.find?_append, Option.map_or, ← remembers kind key]
  split
  · rename_i known
    by_cases same : occurrence.kind = kind ∧ occurrence.key = key
    · obtain ⟨rfl, rfl⟩ := same
      exact (Option.or_of_isSome known).symm
    · simp [same]
  · rw [Declared.line?, List.find?_append, Option.map_or]
    congr 1
    by_cases same : occurrence.kind = kind ∧ occurrence.key = key
    · simp [same]
    · simp [same]

/-- Every declaration is reported by itself, against the first one of its kind and key. -/
theorem declarationReports_eq_flatMap {isStartup : Bool} {seen : List Declared}
    {passed rest : List Occurrence} (remembers : Remembers seen passed)
    (distinct : (passed ++ rest).Nodup) :
    declarationReports isStartup seen rest =
      rest.flatMap fun occurrence =>
        (declarationViolations isStartup
            ((((passed ++ rest).find? fun other =>
              other.kind == occurrence.kind && other.key == occurrence.key).filter
                (· ≠ occurrence)).map (·.line)) occurrence).map
          (.ofViolation · occurrence.span) := by
  induction rest generalizing seen passed with
  | nil => rfl
  | cons occurrence rest ih =>
      have later := ih (remembers.pass occurrence) (by simpa using distinct)
      rw [List.append_assoc, List.singleton_append] at later
      have isNew : occurrence ∉ passed := by
        have := (List.nodup_append.1 distinct).2.2
        intro isPassed
        exact this occurrence isPassed occurrence List.mem_cons_self rfl
      rw [declarationReports, List.flatMap_cons, later, remembers]
      congr 4
      rw [List.find?_append]
      cases foundEq : passed.find? fun other =>
          other.kind == occurrence.kind && other.key == occurrence.key with
      | none => simp [Option.filter]
      | some found =>
          have different : found ≠ occurrence := by
            rintro rfl
            exact isNew (List.mem_of_find?_eq_some foundEq)
          simp [Option.filter, different]

namespace Scene

theorem declarationReports_eq (scene : Scene) (isStartup : Bool) :
    declarationReports isStartup [] scene.declarations =
      scene.declarations.flatMap fun occurrence =>
        (declarationViolations isStartup ((scene.repeated? occurrence).map (·.line))
          occurrence).map (.ofViolation · occurrence.span) := by
  have remembers : Remembers [] [] := fun _ _ => rfl
  have distinct : ([] ++ scene.declarations).Nodup := scene.occurrences_nodup.filter _
  rw [declarationReports_eq_flatMap remembers distinct]
  apply List.flatMap_congr
  intro occurrence isDeclaration
  have declares := (List.mem_filter.1 isDeclaration).2
  -- only declarations have the kind of a declaration
  have found : ([] ++ scene.declarations).find? (fun other =>
      other.kind == occurrence.kind && other.key == occurrence.key) =
        scene.findDeclaration? occurrence.kind occurrence.key := by
    rw [List.nil_append, declarations, List.find?_filter, findDeclaration?]
    congr 1
    funext other
    rw [Bool.eq_iff_iff]
    simp only [decide_eq_true_eq, Bool.and_eq_true, beq_iff_eq, and_iff_right_iff_imp]
    rintro ⟨kindEq, _⟩
    rwa [kindEq]
  rw [found, repeated?]

end Scene

theorem mem_declarationViolations_iff {isStartup : Bool} {first : Option Nat}
    {occurrence : Occurrence} {violation : Violation} :
    violation ∈ declarationViolations isStartup first occurrence ↔
      (occurrence.kind = .globalVariable ∧ isStartup = false ∧
          violation = .createOutsideStartup) ∨
        ∃ line ∈ first,
          (occurrence.kind = .label ∧ violation = .duplicateLabel occurrence.name line) ∨
            ((occurrence.kind = .globalVariable ∨ occurrence.kind = .localVariable) ∧
              violation = .duplicateVariable occurrence.name line) := by
  unfold declarationViolations
  cases occurrence.kind <;> cases first <;> cases isStartup <;> simp

namespace Scene

section Reports

variable {scene : Scene} {isStartup : Bool} {report : Report}

/-- A report of a declaration is about its scope or cites the first declaration. -/
theorem mem_declarationReports_iff :
    report ∈ declarationReports isStartup [] scene.declarations ↔
      (∃ occurrence ∈ scene.occurrences, occurrence.kind = .globalVariable ∧
          isStartup = false ∧ report = .ofViolation .createOutsideStartup occurrence.span) ∨
        ∃ first occurrence, scene.Repeats first occurrence ∧
          ((occurrence.kind = .label ∧
              report = .ofViolation (.duplicateLabel occurrence.name first.line)
                occurrence.span) ∨
            ((occurrence.kind = .globalVariable ∨ occurrence.kind = .localVariable) ∧
              report = .ofViolation (.duplicateVariable occurrence.name first.line)
                occurrence.span)) := by
  have isMember : report ∈ declarationReports isStartup [] scene.declarations ↔
      ∃ occurrence ∈ scene.declarations,
        ∃ violation ∈ declarationViolations isStartup
            ((scene.repeated? occurrence).map (·.line)) occurrence,
          report = .ofViolation violation occurrence.span := by
    rw [declarationReports_eq]
    simp [List.mem_flatMap, List.mem_map, eq_comm]
  rw [isMember]
  constructor
  · rintro ⟨occurrence, isDeclaration, violation, isViolation, rfl⟩
    have isOccurrence := (List.mem_filter.1 isDeclaration).1
    rcases mem_declarationViolations_iff.1 isViolation with
      ⟨kindEq, elsewhere, rfl⟩ | ⟨line, isLine, isDuplicate⟩
    · exact .inl ⟨occurrence, isOccurrence, kindEq, elsewhere, rfl⟩
    · obtain ⟨first, isFirst, rfl⟩ := Option.map_eq_some_iff.1 isLine
      refine .inr ⟨first, occurrence, (repeated?_eq_some_iff isOccurrence).1 isFirst, ?_⟩
      rcases isDuplicate with ⟨kindEq, rfl⟩ | ⟨kindEq, rfl⟩
      · exact .inl ⟨kindEq, rfl⟩
      · exact .inr ⟨kindEq, rfl⟩
  · rintro (⟨occurrence, isOccurrence, kindEq, elsewhere, rfl⟩ |
      ⟨first, occurrence, repeats, ⟨kindEq, rfl⟩ | ⟨kindEq, rfl⟩⟩)
    · refine ⟨occurrence, List.mem_filter.2 ⟨isOccurrence, by rw [kindEq]; rfl⟩, _, ?_, rfl⟩
      exact mem_declarationViolations_iff.2 (.inl ⟨kindEq, elsewhere, rfl⟩)
    · refine ⟨occurrence, List.mem_filter.2 ⟨repeats.1, by rw [kindEq]; rfl⟩, _, ?_, rfl⟩
      rw [(repeated?_eq_some_iff repeats.1).2 repeats]
      exact mem_declarationViolations_iff.2 (.inr ⟨_, rfl, .inl ⟨kindEq, rfl⟩⟩)
    · refine ⟨occurrence, List.mem_filter.2 ⟨repeats.1, ?_⟩, _, ?_, rfl⟩
      · rcases kindEq with kindEq | kindEq <;> rw [kindEq] <;> rfl
      · rw [(repeated?_eq_some_iff repeats.1).2 repeats]
        exact mem_declarationViolations_iff.2 (.inr ⟨_, rfl, .inr ⟨kindEq, rfl⟩⟩)

/-- A rule reports a declaration at most once. -/
theorem declarationReports_pairwise (scene : Scene) (isStartup : Bool) (rule : Rule) :
    ((declarationReports isStartup [] scene.declarations).filter (·.rule == rule)).Pairwise
      fun first second => first.span.stop ≤ second.span.start := by
  rw [declarationReports_eq, List.filter_flatMap, List.pairwise_flatMap]
  constructor
  · intro occurrence _
    unfold declarationViolations
    cases occurrence.kind <;> cases (scene.repeated? occurrence) <;> cases isStartup <;>
      cases rule <;> simp [Report.rule, Report.ofViolation, Violation.rule]
  · have ordered : scene.declarations.Pairwise Occurrence.Before :=
      scene.occurrences_pairwise.filter _
    apply ordered.imp
    intro first second before left isLeft right isRight
    obtain ⟨_, _, rfl⟩ := List.mem_map.1 (List.mem_filter.1 isLeft).1
    obtain ⟨_, _, rfl⟩ := List.mem_map.1 (List.mem_filter.1 isRight).1
    exact before.1

end Reports

/-- Whoever looks for a declaration settles on the one that stands first in the text: the
search for a label or, where the scene has no variable of its own, for a variable of the
game; the tables of labels, variables of the game and achievements; and the reports of
names declared twice, which cite the line of that declaration.  Exactly the labels that
are not the first of their key are reported, and the variables that are not the first of
their key and scope, each once. -/
theorem first_declaration_wins (scene : Scene) (isStartup : Bool) :
    let exports := Exports.ofScene scene
    let reports := declarationReports isStartup [] scene.declarations
    (∀ name first, scene.findLabel? name = some first ↔
        scene.FirstOf .label name.toLower first) ∧
      (∀ name first, scene.findVariable? name = some first ↔
        scene.FirstOf .localVariable name.toLower first ∨
          (∀ other ∈ scene.occurrences, other.kind = .localVariable →
              other.key ≠ name.toLower) ∧
            scene.FirstOf .globalVariable name.toLower first) ∧
      (∀ key first,
        (exports.labels[key]? = some first ↔ scene.FirstOf .label key first) ∧
          (exports.globals[key]? = some first ↔ scene.FirstOf .globalVariable key first) ∧
          (exports.achievements[key]? = some first ↔
            scene.FirstOf .achievement key first)) ∧
      (∀ report, report ∈ reports ∧ report.rule = .duplicateLabel ↔
        ∃ first label, scene.Repeats first label ∧ label.kind = .label ∧
          report = .ofViolation (.duplicateLabel label.name first.line) label.span ∧
          report.message = s!"Label '{label.name}' is already declared on line {first.line + 1}") ∧
      (∀ report, report ∈ reports ∧ report.rule = .duplicateVariable ↔
        ∃ first declared, scene.Repeats first declared ∧
          (declared.kind = .globalVariable ∨ declared.kind = .localVariable) ∧
          report = .ofViolation (.duplicateVariable declared.name first.line) declared.span ∧
          report.message =
            s!"Variable '{declared.name}' is already declared on line {first.line + 1}") ∧
      ∀ rule, (reports.filter (·.rule == rule)).Pairwise fun first second =>
        first.span.stop ≤ second.span.start := by
  intro exports reports
  have inTable (key : String) (first : Occurrence) (kind : OccurrenceKind)
      (isExported : kind.isExported = true) :
      (exports.table kind)[key]? = some first ↔ scene.FirstOf kind key first := by
    rw [Exports.getElem?_table_ofScene scene key kind isExported, findDeclaration?_eq_some_iff]
  refine ⟨fun name first => findDeclaration?_eq_some_iff,
    fun name first => findVariable?_eq_some_iff,
    fun key first => ⟨inTable key first .label rfl, inTable key first .globalVariable rfl,
      inTable key first .achievement rfl⟩, ?_, ?_, scene.declarationReports_pairwise isStartup⟩
  · intro report
    rw [mem_declarationReports_iff]
    constructor
    · rintro ⟨⟨_, _, _, _, rfl⟩ | ⟨first, label, repeats, ⟨kindEq, rfl⟩ | ⟨_, rfl⟩⟩, ruleEq⟩
      · cases ruleEq
      · exact ⟨first, label, repeats, kindEq, rfl, rfl⟩
      · cases ruleEq
    · rintro ⟨first, label, repeats, kindEq, rfl, _⟩
      exact ⟨.inr ⟨first, label, repeats, .inl ⟨kindEq, rfl⟩⟩, rfl⟩
  · intro report
    rw [mem_declarationReports_iff]
    constructor
    · rintro ⟨⟨_, _, _, _, rfl⟩ | ⟨first, declared, repeats, ⟨_, rfl⟩ | ⟨kindEq, rfl⟩⟩, ruleEq⟩
      · cases ruleEq
      · cases ruleEq
      · exact ⟨first, declared, repeats, kindEq, rfl, rfl⟩
    · rintro ⟨first, declared, repeats, kindEq, rfl, _⟩
      exact ⟨.inr ⟨first, declared, repeats, .inr ⟨kindEq, rfl⟩⟩, rfl⟩

end Scene

end Gamebook
