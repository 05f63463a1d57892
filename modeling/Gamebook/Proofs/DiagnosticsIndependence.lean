import Gamebook.Proofs.ProjectIsolation
import Gamebook.Proofs.WordPlaces

/-!
# Spelling and the other rules

The diagnostics of a document are what the rules report about its structure and what spell
checking reports about its words, sorted together by place.  Sorting keeps the order of
reports at one place, so each of the two parts comes out as if the other were not there:
dictionaries, readable or not, change nothing about the structure, and the levels of the
rules change nothing about the spelling.
-/

namespace Gamebook

/-! ## Stable sorting -/

section StableSorting

variable {Item : Type} {le : Item → Item → Bool}
  (trans : ∀ first second third, le first second = true → le second third = true →
    le first third = true)
  (total : ∀ first second, (le first second || le second first) = true)

/-- What is sorted before an item is what is not below it at the begin of the others. -/
theorem eq_takeWhile_of_sorted {item : Item} {left right : List Item}
    (notAbove : ∀ other ∈ left, (!le item other) = true)
    (sorted : (left ++ item :: right).Pairwise fun first second => le first second = true) :
    left = (left ++ right).takeWhile (!le item ·) := by
  have above := (List.pairwise_cons.1 (List.pairwise_append.1 sorted).2.1).1
  have noneOfRight : right.takeWhile (!le item ·) = [] := by
    cases right with
    | nil => rfl
    | cons next others => simp [above next List.mem_cons_self]
  rw [List.takeWhile_append_of_pos notAbove, noneOfRight, List.append_nil]

include trans total in
/-- Sorting is stable: what is kept of a sorted list is what is kept, sorted. -/
theorem filter_mergeSort (keep : Item → Bool) (items : List Item) :
    (items.mergeSort le).filter keep = (items.filter keep).mergeSort le := by
  induction items with
  | nil => simp
  | cons item rest ih =>
      obtain ⟨left, right, sortedEq, restEq, notAbove⟩ :=
        List.mergeSort_cons trans total item rest
      have sorted := List.pairwise_mergeSort trans total (item :: rest)
      rw [restEq, List.filter_append] at ih
      rw [sortedEq] at sorted ⊢
      rw [List.filter_append, List.filter_cons, List.filter_cons]
      by_cases isKept : keep item = true
      · obtain ⟨keptLeft, keptRight, keptSortedEq, keptRestEq, keptNotAbove⟩ :=
          List.mergeSort_cons trans total item (rest.filter keep)
        have keptSorted := List.pairwise_mergeSort trans total (item :: rest.filter keep)
        rw [keptSortedEq] at keptSorted
        have filteredSorted : (left.filter keep ++ item :: right.filter keep).Pairwise
            fun first second => le first second = true := by
          have filtered := sorted.filter keep
          rwa [List.filter_append, List.filter_cons_of_pos isKept] at filtered
        have sameParts := ih.trans keptRestEq
        have leftEq : left.filter keep = keptLeft := by
          rw [eq_takeWhile_of_sorted
            (fun other isLeft => notAbove other (List.mem_filter.1 isLeft).1) filteredSorted,
            sameParts, ← eq_takeWhile_of_sorted keptNotAbove keptSorted]
        rw [leftEq] at sameParts
        rw [if_pos isKept, if_pos isKept, keptSortedEq, leftEq,
          List.append_cancel_left sameParts]
      · rw [if_neg isKept, if_neg isKept, ih]

end StableSorting

/-! ## The parts of a result -/

theorem SpellChecker.check_rule {checker : SpellChecker} {scene : Scene} :
    ∀ report ∈ checker.check scene, report.rule = .badSpelling := by
  intro report isReport
  obtain ⟨word, violationEq, _⟩ := SpellChecker.check_spec isReport
  rw [Report.rule, violationEq, Violation.rule]

theorem Diagnostic.isOf_ofReport (source : Source) (report : Report) (rule : Rule) :
    (Diagnostic.ofReport source report).isOf rule = (report.rule == rule) := by
  have codes : report.rule.code = rule.code ↔ report.rule = rule :=
    ⟨Rule.code_injective _ _, congrArg Rule.code⟩
  simp [Diagnostic.isOf, Diagnostic.ofReport, codes, beq_eq_decide]

namespace Workspace

variable {workspace : Workspace} {document : Document} {files : FileTree}

theorem reportBefore_iff {first second : Report} :
    reportBefore first second = true ↔
      first.span.start < second.span.start ∨
        first.span.start = second.span.start ∧ first.span.stop ≤ second.span.stop := by
  simp [reportBefore]

theorem reportBefore_trans (first second third : Report)
    (early : reportBefore first second = true) (late : reportBefore second third = true) :
    reportBefore first third = true := by
  rw [reportBefore_iff] at early late ⊢
  omega

theorem reportBefore_total (first second : Report) :
    (reportBefore first second || reportBefore second first) = true := by
  rw [Bool.or_eq_true, reportBefore_iff, reportBefore_iff]
  omega

/-- What the rules report about the structure of a document. -/
def structuralReports (workspace : Workspace) (document : Document) : List Report :=
  validate document.scene ⟨document.uri.sceneName, (workspace.around document).scope⟩
    workspace.settings.diagnostics.validation

/-- What spell checking reports about the words of a document. -/
def spellingReports (workspace : Workspace) (document : Document) : List Report :=
  (workspace.checker?.map (·.check document.scene)).getD []

theorem spellingReports_rule :
    ∀ report ∈ workspace.spellingReports document, report.rule = .badSpelling := by
  intro report isReport
  cases checkerEq : workspace.checker? with
  | none => simp [spellingReports, checkerEq] at isReport
  | some checker =>
      rw [spellingReports, checkerEq] at isReport
      exact SpellChecker.check_rule report isReport

theorem filter_reports (keep : Report → Bool) :
    (workspace.reports document).filter keep =
      ((workspace.structuralReports document).filter keep ++
        (workspace.spellingReports document).filter keep).mergeSort reportBefore := by
  rw [← List.filter_append]
  exact filter_mergeSort reportBefore_trans reportBefore_total keep _

/-- Without those on spelling, the reports are the structural ones. -/
theorem filter_reports_structural :
    (workspace.reports document).filter (·.rule != .badSpelling) =
      (workspace.structuralReports document).mergeSort reportBefore := by
  have allKept : (workspace.structuralReports document).filter (·.rule != .badSpelling) =
      workspace.structuralReports document :=
    List.filter_eq_self.2 fun report isReport => bne_iff_ne.2 (validate_rule report isReport)
  have noneKept : (workspace.spellingReports document).filter (·.rule != .badSpelling) = [] :=
    List.filter_eq_nil_iff.2 fun report isReport => by simp [spellingReports_rule report isReport]
  rw [filter_reports, allKept, noneKept, List.append_nil]

/-- Those on spelling are what spell checking reports. -/
theorem filter_reports_spelling :
    (workspace.reports document).filter (·.rule == .badSpelling) =
      (workspace.spellingReports document).mergeSort reportBefore := by
  have noneKept : (workspace.structuralReports document).filter (·.rule == .badSpelling) = [] :=
    List.filter_eq_nil_iff.2 fun report isReport => by simp [validate_rule report isReport]
  have allKept : (workspace.spellingReports document).filter (·.rule == .badSpelling) =
      workspace.spellingReports document :=
    List.filter_eq_self.2 fun report isReport => beq_iff_eq.2 (spellingReports_rule report isReport)
  rw [filter_reports, noneKept, allKept, List.nil_append]

theorem filter_diagnose_structural :
    (workspace.diagnose files document).2.filter (!·.isOf .badSpelling) =
      ((workspace.structuralReports document).mergeSort reportBefore).map
        (.ofReport document.scene.source) := by
  have sameReports : (workspace.withSpelling files).structuralReports document =
      workspace.structuralReports document := by
    simp only [structuralReports, around, settings_withSpelling, index_withSpelling]
  rw [← sameReports, ← filter_reports_structural, diagnose, List.filter_map]
  congr 2
  funext report
  simp [Diagnostic.isOf_ofReport, bne]

theorem filter_diagnose_spelling :
    (workspace.diagnose files document).2.filter (·.isOf .badSpelling) =
      (((workspace.withSpelling files).spellingReports document).mergeSort reportBefore).map
        (.ofReport document.scene.source) := by
  rw [← filter_reports_spelling, diagnose, List.filter_map]
  congr 2
  funext report
  simp [Diagnostic.isOf_ofReport]

/-- Two workspaces with one index and the same levels of the rules report the same about
the structure of a document, whatever their dictionaries, accepted words and files.  Two
with the same dictionaries report the same about its words, whatever the levels.  All that
is reported comes in the order of places. -/
theorem diagnostics_independent (first second : Workspace) (document : Document) :
    (first.index = second.index →
      first.settings.diagnostics.validation = second.settings.diagnostics.validation →
      ∀ firstFiles secondFiles,
        (first.diagnose firstFiles document).2.filter (!·.isOf .badSpelling) =
          (second.diagnose secondFiles document).2.filter (!·.isOf .badSpelling)) ∧
    (first.settings.diagnostics.spelling = second.settings.diagnostics.spelling →
      first.spelling = second.spelling → first.configDirectory = second.configDirectory →
      ∀ files, (first.diagnose files document).2.filter (·.isOf .badSpelling) =
        (second.diagnose files document).2.filter (·.isOf .badSpelling)) ∧
    ∀ files,
      (first.diagnose files document).2 =
        ((first.withSpelling files).reports document).map (.ofReport document.scene.source) ∧
      ((first.withSpelling files).reports document).Pairwise fun earlier later =>
        earlier.span.start < later.span.start ∨
          earlier.span.start = later.span.start ∧ earlier.span.stop ≤ later.span.stop := by
  refine ⟨?_, ?_, ?_⟩
  · intro sameIndex sameRules firstFiles secondFiles
    rw [filter_diagnose_structural, filter_diagnose_structural, structuralReports,
      structuralReports, around, around, sameIndex, sameRules]
  · intro sameOptions sameSpelling sameDirectory files
    have sameChecker := checker?_withSpelling_eq sameOptions sameSpelling sameDirectory files
    rw [filter_diagnose_spelling, filter_diagnose_spelling, spellingReports, spellingReports,
      sameChecker]
  · intro files
    refine ⟨rfl, ?_⟩
    have sorted := List.pairwise_mergeSort reportBefore_trans reportBefore_total
      ((first.withSpelling files).structuralReports document ++
        (first.withSpelling files).spellingReports document)
    exact sorted.imp reportBefore_iff.1

/-- A workspace with a dictionary, one whose dictionary is lost and one in which only words
are checked: the first two object to the same jump, the first and the last to the same
words. -/
theorem diagnostics_beside_lost_dictionary :
    let document := Document.ofText "file:///game/chapter.txt" 1 "zorblax\n*goto_scene nowhere"
    let words : SpellingOptions := { dictionaryPath := some "/words.txt" }
    let files : FileTree := { entries := [(["words.txt"], .text "the\n")] }
    let checking : Workspace := { store := .ofSettings { diagnostics := { spelling := words } } }
    let lost : Workspace :=
      { store := .ofSettings
          { diagnostics := { spelling := { dictionaryPath := some "/lost.txt" } } } }
    let onlyWords : Workspace :=
      { store := .ofSettings
          { diagnostics := { spelling := words, validation := { validate := false } } } }
    (checking.index = lost.index ∧
      checking.settings.diagnostics.validation = lost.settings.diagnostics.validation ∧
      (checking.diagnose files document).2.filter (!·.isOf .badSpelling) =
        (lost.diagnose {} document).2.filter (!·.isOf .badSpelling)) ∧
    checking.settings.diagnostics.spelling = onlyWords.settings.diagnostics.spelling ∧
      checking.spelling = onlyWords.spelling ∧
      checking.configDirectory = onlyWords.configDirectory ∧
      (checking.diagnose files document).2.filter (·.isOf .badSpelling) =
        (onlyWords.diagnose files document).2.filter (·.isOf .badSpelling) := by
  intro document words files checking lost onlyWords
  exact ⟨⟨rfl, rfl, (diagnostics_independent checking lost document).1 rfl rfl files {}⟩,
    rfl, rfl, rfl, (diagnostics_independent checking onlyWords document).2.1 rfl rfl rfl files⟩

end Workspace

end Gamebook
