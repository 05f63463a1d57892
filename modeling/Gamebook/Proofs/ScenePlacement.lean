import Gamebook.Proofs.LinePlacement
import Gamebook.Proofs.OutlineNesting

/-!
# Where a scene mentions what it mentions

The findings of a scene are made line by line.  A line may also look at the
lines under it, and then these are not walked again, so every line is read
once.  Hence all findings of a scene are apart, each on its own line, and
sorting the occurrences by position puts them one behind the other.
-/

namespace Gamebook

/-- The findings were made on the lines, and are apart. -/
structure Located (lines : List Line) (findings : List Finding) : Prop where
  on : ∀ finding ∈ findings, ∃ line ∈ lines, finding.On line.number line.content
  apart : findings.Pairwise Finding.Apart

namespace Located

variable {lines larger first second : List Line} {line : Line}
  {findings left right : List Finding}

theorem nil (lines : List Line) : Located lines [] :=
  ⟨by simp, List.Pairwise.nil⟩

theorem mono (located : Located lines findings) (included : lines ⊆ larger) :
    Located larger findings := by
  refine ⟨?_, located.apart⟩
  intro finding isFinding
  obtain ⟨line, isLine, on⟩ := located.on finding isFinding
  exact ⟨line, included isLine, on⟩

theorem ofPlaced (placed : Placed line.number line.content findings)
    (isLine : line ∈ lines) : Located lines findings :=
  ⟨fun finding isFinding => ⟨line, isLine, placed.on finding isFinding⟩, placed.apart⟩

theorem append_of_apart (leftLocated : Located lines left)
    (rightLocated : Located lines right)
    (apart : ∀ first ∈ left, ∀ second ∈ right, first.Apart second) :
    Located lines (left ++ right) := by
  constructor
  · exact List.forall_mem_append.2 ⟨leftLocated.on, rightLocated.on⟩
  · exact List.pairwise_append.2 ⟨leftLocated.apart, rightLocated.apart, apart⟩

theorem append (leftLocated : Located first left) (rightLocated : Located second right)
    (ordered : (first ++ second).Pairwise Line.Before) :
    Located (first ++ second) (left ++ right) := by
  apply append_of_apart (leftLocated.mono (List.subset_append_left _ _))
    (rightLocated.mono (List.subset_append_right _ _))
  intro leftFinding isLeft rightFinding isRight
  obtain ⟨leftLine, isLeftLine, leftOn⟩ := leftLocated.on _ isLeft
  obtain ⟨rightLine, isRightLine, rightOn⟩ := rightLocated.on _ isRight
  have before := (List.pairwise_append.1 ordered).2.2 _ isLeftLine _ isRightLine
  exact leftOn.apart rightOn fun _ => before.2

/-- Faults are apart from each other wherever they are. -/
theorem ofSilent (silent : ∀ finding ∈ findings, finding.occurrence? = none ∧
      ∃ line ∈ lines, finding.On line.number line.content) :
    Located lines findings := by
  refine ⟨fun finding isFinding => (silent finding isFinding).2, ?_⟩
  induction findings with
  | nil => exact List.Pairwise.nil
  | cons fault rest ih =>
      refine List.pairwise_cons.2 ⟨fun _ _ => ?_, ih fun other isOther =>
        silent other (List.mem_cons_of_mem _ isOther)⟩
      exact .of_silent (silent fault List.mem_cons_self).1

theorem flatMap {found : Line → List Finding}
    (each : ∀ line ∈ lines, Placed line.number line.content (found line))
    (ordered : lines.Pairwise Line.Before) : Located lines (lines.flatMap found) := by
  induction lines with
  | nil => exact .nil []
  | cons line rest ih =>
      rw [List.flatMap_cons]
      have here : Located [line] (found line) :=
        .ofPlaced (each line List.mem_cons_self) (List.mem_singleton_self line)
      have later := ih (fun other isOther => each other (List.mem_cons_of_mem _ isOther))
        ordered.of_cons
      exact here.append later ordered

end Located

/-! ## Rows under a command -/

theorem Outline.roots_sublist (outline : Outline) :
    outline.roots.Sublist outline.lines := by
  induction outline with
  | nil => exact List.Sublist.refl _
  | entry line nested rest _ ih =>
      simp only [Outline.roots, Outline.lines]
      exact (ih.trans (List.sublist_append_right _ _)).cons_cons line

theorem located_sceneRows (listed : Bool) {rows : List Line}
    (ordered : rows.Pairwise Line.Before) :
    Located rows (sceneRowFindings listed rows) := by
  refine Located.flatMap ?_ ordered
  intro row _
  cases sceneEq : sceneOfRow? row.content with
  | none => exact .nil row.number row.content
  | some scene =>
      have isWord := List.mem_of_find?_eq_some sceneEq
      obtain ⟨within, notEmpty⟩ := Fragment.words_spec isWord
      exact .mention row.number _ within notEmpty

theorem located_chart {outline : Outline} (ordered : outline.lines.Pairwise Line.Before) :
    Located outline.lines (chartFindings outline) := by
  induction outline with
  | nil => exact .nil _
  | entry row nested rest _ ih =>
      rw [Outline.lines, ← List.cons_append] at ordered ⊢
      obtain ⟨hereOrdered, restOrdered, _⟩ := List.pairwise_append.1 ordered
      rw [chartFindings]
      refine Located.append ?_ (ih restOrdered) ordered
      split
      · exact .nil _
      · rename_i kind caption split
        split
        · have captionWithin := (Fragment.splitWord?_spec split).2.2.1
          have inRow : Located [row] (chartRowFindings row.number caption) :=
            .ofPlaced ((Reading.ofChartRow False row.number caption).placed.mono captionWithin)
              (List.mem_singleton_self row)
          have rootsOrdered : ([row] ++ nested.roots).Pairwise Line.Before :=
            hereOrdered.sublist (nested.roots_sublist.cons_cons row)
          have inNames : Located nested.roots (nested.roots.flatMap fun name =>
              proseFindings name.number true name.content) :=
            Located.flatMap (fun name _ => placed_prose name.number true name.content)
              rootsOrdered.of_cons
          exact (inRow.append inNames rootsOrdered).mono
            (nested.roots_sublist.cons_cons row).subset
        · exact .nil _

/-! ## Lines -/

theorem located_unexpected (nested : Outline) :
    Located nested.lines (unexpectedFindings nested) := by
  cases nested with
  | nil => exact .nil _
  | entry line nested rest =>
      exact .ofPlaced (.wrong line.number _ (Fragment.Within.refl line.content))
        List.mem_cons_self

theorem placed_fault (line : Line) (cause : FaultCause) :
    Placed line.number line.content [.wrong cause line.span] :=
  .wrong line.number cause (Fragment.Within.refl line.content)

/-- Whether a command itself reads the lines under it. -/
def Command.readsRows (command : Command) : Bool :=
  match command.body with
  | .scenes _ | .chart => true
  | _ => false

theorem located_rows {command : Command} {nested : Outline} (line : Line)
    (reads : command.readsRows = true) (ordered : nested.lines.Pairwise Line.Before) :
    Located nested.lines (bodyFindings command line nested) := by
  cases bodyEq : command.body with
  | scenes listed =>
      simp only [bodyFindings, bodyEq]
      exact (located_sceneRows listed (ordered.sublist nested.roots_sublist)).mono
        nested.roots_sublist.subset
  | chart =>
      simp only [bodyFindings, bodyEq]
      exact located_chart ordered
  | _ => simp [Command.readsRows, bodyEq] at reads

/-- A body that is not read as rows is only found fault with. -/
theorem body_silent {command : Command} {line : Line} {nested : Outline}
    (walks : command.readsRows = false) :
    ∀ finding ∈ bodyFindings command line nested,
      finding.occurrence? = none ∧
        ∃ place ∈ line :: nested.lines, finding.On place.number place.content := by
  have onLine (cause : FaultCause) : ∀ finding ∈ [Finding.wrong cause line.span],
      finding.occurrence? = none ∧
        ∃ place ∈ line :: nested.lines, finding.On place.number place.content := by
    intro finding isFinding
    obtain rfl := List.mem_singleton.1 isFinding
    exact ⟨rfl, line, List.mem_cons_self, line.content, Fragment.Within.refl _, rfl⟩
  cases bodyEq : command.body with
  | none =>
      intro finding isFinding
      simp only [bodyFindings, bodyEq] at isFinding
      obtain ⟨place, isPlace, on⟩ := (located_unexpected nested).on finding isFinding
      obtain ⟨first, _, rfl⟩ := List.mem_map.1 isFinding
      exact ⟨rfl, place, List.mem_cons_of_mem _ isPlace, on⟩
  | nested => simp [bodyFindings, bodyEq]
  | remark => simp [bodyFindings, bodyEq]
  | options fake =>
      simp only [bodyFindings, bodyEq]
      split
      · simp
      · exact onLine _
  | branch place =>
      simp only [bodyFindings, bodyEq]
      split
      · exact onLine _
      · simp
  | scenes listed => simp [Command.readsRows, bodyEq] at walks
  | chart => simp [Command.readsRows, bodyEq] at walks

theorem placed_faultIf (line : Line) (condition : Prop) [Decidable condition]
    (cause : FaultCause) :
    Placed line.number line.content
        (if condition then [Finding.wrong cause line.span] else []) ∧
      ∀ finding ∈ (if condition then [Finding.wrong cause line.span] else []),
        finding.occurrence? = none := by
  split
  · exact ⟨placed_fault line cause, by simp [Finding.wrong, Finding.occurrence?]⟩
  · exact ⟨.nil _ _, by simp⟩

theorem placed_command {command : Command} {arguments : Fragment} {line : Line}
    (previous : Option Command) (within : arguments.Within line.content) :
    Placed line.number line.content
      ((if command.needsArgument && arguments.isEmpty then
          [.wrong (.missingArgument command.name) line.span] else []) ++
        (if command.continuesChain && !previous.any (·.admitsBranch) then
          [.wrong (.orphanElse command.name) line.span] else []) ++
        argumentFindings line.number arguments command.arguments) := by
  rw [List.append_assoc]
  obtain ⟨missing, missingSilent⟩ := placed_faultIf line
    ((command.needsArgument && arguments.isEmpty) = true) (.missingArgument command.name)
  obtain ⟨orphan, orphanSilent⟩ := placed_faultIf line
    ((command.continuesChain && !previous.any (·.admitsBranch)) = true)
    (.orphanElse command.name)
  exact missing.append_of_silent
    (orphan.append_of_silent ((Reading.ofArguments _ _ _).placed.mono within) orphanSilent)
    missingSilent

theorem placed_option {option : OptionLine} {line : Line} (surroundings : Surroundings)
    (nested : Outline) (parts : option.Within line.content) :
    Placed line.number line.content
      (optionFindings surroundings option line nested) := by
  obtain ⟨textWithin, conditionWithin⟩ := parts
  have text := placed_prose line.number true option.text
  have said : Placed line.number line.content
      (option.condition.toList.flatMap (expressionFindings line.number) ++
        proseFindings line.number true option.text) := by
    cases conditionEq : option.condition with
    | none => simpa using text.mono textWithin
    | some condition =>
        obtain ⟨within, before⟩ := conditionWithin condition conditionEq
        simpa using Placed.append (placed_expression line.number condition) text
          within textWithin before
  obtain ⟨outside, outsideSilent⟩ := placed_faultIf line
    (¬ surroundings.admitsOptions = true) .optionOutsideChoice
  obtain ⟨empty, emptySilent⟩ := placed_faultIf line
    (surroundings = .inChoice false ∧ nested.isEmpty = true) (.emptyBlock "#option")
  rw [ite_not] at outside outsideSilent
  unfold optionFindings
  rw [List.append_assoc _ _ (proseFindings _ _ _), List.append_assoc]
  apply outside.append_of_silent _ outsideSilent
  apply said.append_of_apart empty
  intro left _ right isRight
  exact (Finding.Apart.of_silent (emptySilent right isRight)).symm

/-- The findings of a line are those of its own content and those that its
command makes in the lines under it.  If these lines are walked later, the
command only finds fault with them. -/
theorem lineFindings_split {line : Line} {nested : Outline}
    (isRead : line.kind = .ofContent line.content)
    (ordered : nested.lines.Pairwise Line.Before)
    (surroundings : Surroundings) (previous : Option Command) :
    ∃ own under, lineFindings surroundings previous line nested = own ++ under ∧
      Placed line.number line.content own ∧
      ((Located nested.lines under ∧ surroundings.under? line = none) ∨
        ∀ finding ∈ under, finding.occurrence? = none ∧
          ∃ place ∈ line :: nested.lines, finding.On place.number place.content) := by
  cases kindEq : line.kind with
  | command command arguments =>
      have within := LineKind.ofContent_command (isRead.symm.trans kindEq)
      refine ⟨_, bodyFindings command line nested, by simp only [lineFindings, kindEq]; rfl,
        placed_command previous within, ?_⟩
      cases reads : command.readsRows with
      | true =>
          left
          refine ⟨located_rows line reads ordered, ?_⟩
          have commandEq : line.command? = some command := by
            simp [Line.command?, LineKind.command?, kindEq]
          unfold Command.readsRows at reads
          split at reads <;> simp_all [Surroundings.under?]
      | false => exact Or.inr (body_silent reads)
  | option option =>
      have parts := LineKind.ofContent_option (isRead.symm.trans kindEq)
      refine ⟨optionFindings surroundings option line nested, [], ?_,
        placed_option surroundings nested parts, by simp⟩
      simp [lineFindings, kindEq]
  | prose =>
      refine ⟨proseFindings line.number true line.content, unexpectedFindings nested, ?_,
        placed_prose _ _ _, Or.inr ?_⟩
      · simp [lineFindings, kindEq]
      · intro finding isFinding
        obtain ⟨place, isPlace, on⟩ := (located_unexpected nested).on finding isFinding
        obtain ⟨first, _, rfl⟩ := List.mem_map.1 isFinding
        exact ⟨rfl, place, List.mem_cons_of_mem _ isPlace, on⟩
  | unknown name =>
      obtain ⟨part, within, spanEq⟩ := LineKind.ofContent_unknown (isRead.symm.trans kindEq)
      refine ⟨_, [], by simp [lineFindings, kindEq]; rfl, ?_, by simp⟩
      rw [unknownSpan, ← spanEq]
      exact .wrong line.number _ within

/-! ## Outlines -/

theorem located_line {line : Line} {nested : Outline}
    (isRead : line.kind = .ofContent line.content)
    (ordered : (line :: nested.lines).Pairwise Line.Before)
    (surroundings : Surroundings) (previous : Option Command) :
    Located (line :: nested.lines) (lineFindings surroundings previous line nested) := by
  obtain ⟨own, under, findingsEq, placed, rows | silent⟩ :=
    lineFindings_split isRead ordered.of_cons surroundings previous
  · rw [findingsEq]
    have ownLocated : Located [line] own := .ofPlaced placed (List.mem_singleton_self line)
    exact ownLocated.append rows.1 ordered
  · rw [findingsEq]
    have ownLocated : Located (line :: nested.lines) own :=
      .ofPlaced placed List.mem_cons_self
    apply ownLocated.append_of_apart (.ofSilent silent)
    intro left _ right isRight
    exact (Finding.Apart.of_silent (silent right isRight).1).symm

/-- A line says something on another line only if that line is not walked. -/
theorem on_line_of_walked {line : Line} {nested : Outline} {finding : Finding}
    {found : Occurrence} {surroundings inner : Surroundings} {previous : Option Command}
    (isRead : line.kind = .ofContent line.content)
    (ordered : nested.lines.Pairwise Line.Before)
    (walked : surroundings.under? line = some inner)
    (isFinding : finding ∈ lineFindings surroundings previous line nested)
    (foundEq : finding.occurrence? = some found) :
    finding.On line.number line.content := by
  obtain ⟨own, under, findingsEq, placed, rows | silent⟩ :=
    lineFindings_split isRead ordered surroundings previous
  · simp [rows.2] at walked
  · rw [findingsEq] at isFinding
    rcases List.mem_append.1 isFinding with isOwn | isUnder
    · exact placed.on finding isOwn
    · simp [(silent finding isUnder).1] at foundEq

/-- All findings of an outline are made on its lines, and are apart. -/
theorem located_findings {outline : Outline}
    (areRead : ∀ line ∈ outline.lines, line.kind = .ofContent line.content)
    (ordered : outline.lines.Pairwise Line.Before)
    (surroundings : Surroundings) (previous : Option Command) :
    Located outline.lines (outline.findings surroundings previous) := by
  induction outline generalizing surroundings previous with
  | nil => exact .nil _
  | entry line nested rest nestedIh restIh =>
      rw [Outline.lines, ← List.cons_append] at ordered areRead ⊢
      obtain ⟨hereOrdered, restOrdered, _⟩ := List.pairwise_append.1 ordered
      have isRead : line.kind = .ofContent line.content := areRead line (by simp)
      have here := located_line isRead hereOrdered surroundings previous
      have later := restIh (fun other isOther => areRead other (by simp [isOther]))
        restOrdered surroundings (line.previous previous)
      rw [Outline.findings]
      refine Located.append ?_ later ordered
      split
      · rename_i inner walked
        have below := nestedIh (fun other isOther => areRead other (by simp [isOther]))
          hereOrdered.of_cons inner none
        apply here.append_of_apart (below.mono (List.subset_cons_self _ _))
        intro left isLeft right isRight found foundEq
        have leftOn := on_line_of_walked isRead hereOrdered.of_cons walked isLeft foundEq
        obtain ⟨place, isPlace, rightOn⟩ := below.on right isRight
        have before := (List.pairwise_cons.1 hereOrdered).1 place isPlace
        exact leftOn.apart rightOn (fun _ => before.2) found foundEq
      · simpa using here

theorem silent_indentFindings (expected : Option Nat) (outline : Outline) :
    ∀ finding ∈ outline.indentFindings expected, finding.occurrence? = none ∧
      ∃ line ∈ outline.lines, finding.On line.number line.content := by
  induction outline generalizing expected with
  | nil => simp [Outline.indentFindings]
  | entry line nested rest nestedIh restIh =>
      intro finding isFinding
      rw [Outline.indentFindings] at isFinding
      rw [Outline.lines]
      rcases List.mem_append.1 isFinding with isEarlier | isLater
      · rcases List.mem_append.1 isEarlier with isHere | isBelow
        · split at isHere
          · obtain rfl := List.mem_singleton.1 isHere
            exact ⟨rfl, line, List.mem_cons_self, line.content,
              Fragment.Within.refl _, rfl⟩
          · simp at isHere
        · obtain ⟨silent, place, isPlace, on⟩ := nestedIh none finding isBelow
          exact ⟨silent, place, by simp [isPlace], on⟩
      · obtain ⟨silent, place, isPlace, on⟩ := restIh _ finding isLater
        exact ⟨silent, place, by simp [isPlace], on⟩

/-! ## Scenes -/

theorem pairwise_mergeSort_key {Item : Type} (key : Item → Nat) (items : List Item) :
    (items.mergeSort fun first second => key first ≤ key second).Pairwise
      fun first second => key first ≤ key second := by
  have sorted := @List.pairwise_mergeSort Item
    (fun first second => key first ≤ key second)
    (by intro first second third; simp only [decide_eq_true_eq]; omega)
    (by intro first second; simp only [Bool.or_eq_true, decide_eq_true_eq]; omega) items
  exact sorted.imp of_decide_eq_true

namespace Scene

theorem outline_lines (scene : Scene) :
    scene.outline.lines = scene.source.contentLines := by
  rw [scene.outline_eq_ofLines]
  exact Outline.lines_ofLines _

theorem lines_pairwise (scene : Scene) : scene.outline.lines.Pairwise Line.Before := by
  rw [outline_lines]
  exact scene.source.contentLines_pairwise

theorem kind_eq_ofContent {scene : Scene} {line : Line} (isLine : line ∈ scene.outline.lines) :
    line.kind = .ofContent line.content := by
  rw [outline_lines] at isLine
  obtain ⟨text, _, lineEq⟩ := Source.exists_text_of_mem_contentLines isLine
  exact (Line.ofFragment?_spec lineEq).2.2.2

theorem known_of_mem_lines {scene : Scene} {line : Line}
    (isLine : line ∈ scene.outline.lines) : line.Known := by
  intro command isCommand
  rw [Option.mem_def, Line.command?, kind_eq_ofContent isLine] at isCommand
  cases contentEq : LineKind.ofContent line.content with
  | command other arguments =>
      obtain rfl : other = command := by simpa [contentEq, LineKind.command?] using isCommand
      exact LineKind.known_ofContent contentEq
  | option option => simp [contentEq, LineKind.command?] at isCommand
  | prose => simp [contentEq, LineKind.command?] at isCommand
  | unknown name => simp [contentEq, LineKind.command?] at isCommand

theorem line_eq_of_number_eq {scene : Scene} {first second : Line}
    (isFirst : first ∈ scene.outline.lines) (isSecond : second ∈ scene.outline.lines)
    (numberEq : first.number = second.number) : first = second := by
  by_contra different
  rcases before_or_behind scene.lines_pairwise isFirst isSecond different with before | behind
  · have := before.1
    omega
  · have := behind.1
    omega

theorem located_allFindings (scene : Scene) :
    Located scene.source.contentLines scene.outline.allFindings := by
  rw [← outline_lines]
  have silent := silent_indentFindings none scene.outline
  apply Located.append_of_apart (.ofSilent silent)
    (located_findings (fun _ => kind_eq_ofContent) scene.lines_pairwise .outside none)
  intro left isLeft right _
  exact .of_silent (silent left isLeft).1

theorem mem_occurrences_iff {scene : Scene} {occurrence : Occurrence} :
    occurrence ∈ scene.occurrences ↔
      ∃ finding ∈ scene.outline.allFindings, finding.occurrence? = some occurrence := by
  rw [scene.occurrences_eq, Gamebook.occurrencesOf, List.mem_mergeSort, List.mem_filterMap]

theorem mem_faults_iff {scene : Scene} {fault : Fault} :
    fault ∈ scene.faults ↔
      ∃ finding ∈ scene.outline.allFindings, finding.fault? = some fault := by
  rw [scene.faults_eq, faultsOf, List.mem_mergeSort, List.mem_filterMap]

theorem occurrence_on_line {scene : Scene} {occurrence : Occurrence}
    (isOccurrence : occurrence ∈ scene.occurrences) :
    ∃ line ∈ scene.source.contentLines, ∃ (role : Role) (part : Fragment),
      part.Within line.content ∧ part.chars ≠ [] ∧
        occurrence = .ofFragment role part line.number := by
  obtain ⟨finding, isFinding, foundEq⟩ := mem_occurrences_iff.1 isOccurrence
  obtain ⟨line, isLine, on⟩ := scene.located_allFindings.on finding isFinding
  exact ⟨line, isLine, on.occurrence_spec foundEq⟩

theorem fault_on_line {scene : Scene} {fault : Fault} (isFault : fault ∈ scene.faults) :
    ∃ line ∈ scene.source.contentLines, ∃ part : Fragment,
      part.Within line.content ∧ fault.span = part.span := by
  obtain ⟨finding, isFinding, faultEq⟩ := mem_faults_iff.1 isFault
  obtain ⟨line, isLine, on⟩ := scene.located_allFindings.on finding isFinding
  cases finding with
  | occurrence found => simp [Finding.fault?] at faultEq
  | fault found =>
      obtain rfl : found = fault := by simpa [Finding.fault?] using faultEq
      exact ⟨line, isLine, on⟩

theorem span_start_lt_stop {scene : Scene} {occurrence : Occurrence}
    (isOccurrence : occurrence ∈ scene.occurrences) :
    occurrence.span.start < occurrence.span.stop := by
  obtain ⟨_, _, _, part, _, notEmpty, rfl⟩ := occurrence_on_line isOccurrence
  exact Fragment.start_lt_stop notEmpty

/-- The occurrences of a scene stand one behind the other. -/
theorem occurrences_pairwise (scene : Scene) :
    scene.occurrences.Pairwise Occurrence.Before := by
  have apart : scene.occurrences.Pairwise Occurrence.Apart := by
    rw [scene.occurrences_eq, Gamebook.occurrencesOf,
      (List.mergeSort_perm _ _).pairwise_iff Occurrence.Apart.symm, List.pairwise_filterMap]
    exact scene.located_allFindings.apart
  have sorted : scene.occurrences.Pairwise fun first second =>
      first.span.start ≤ second.span.start := by
    rw [scene.occurrences_eq]
    exact pairwise_mergeSort_key (fun occurrence : Occurrence => occurrence.span.start) _
  apply (apart.and sorted).imp_of_mem
  rintro first second _ isSecond ⟨before | behind, startLe⟩
  · exact before
  · -- the second one would have to end before it starts
    have := span_start_lt_stop isSecond
    have := behind.1
    omega

/-! ## Where occurrences and faults are -/

/-- A part of a line of a text is what its span reads out of the text. -/
theorem slice_of_within {text : String} {line : Line} {part : Fragment}
    (isLine : line ∈ (parse text).source.contentLines) (within : part.Within line.content) :
    part.span.slice? text.toList = some part.chars :=
  (within.trans (Source.contentLine_within_whole isLine)).slice rfl

theorem not_lineFeed_of_within {source : Source} {line : Line} {part : Fragment}
    (isLine : line ∈ source.contentLines) (within : part.Within line.content) :
    '\n' ∉ part.chars := by
  intro inPart
  obtain ⟨text, isText, lineEq⟩ := Source.exists_text_of_mem_contentLines isLine
  obtain ⟨_, contentWithin, _⟩ := Line.ofFragment?_spec lineEq
  have inText := (contentWithin.trans (Source.content_within text)).mem (within.mem inPart)
  exact Source.not_lineFeed_of_mem_lines (List.mem_of_getElem? isText) inText

/-- Every occurrence is a run of characters on one line that is not blank, named
as it is written there and numbered by the line its offset belongs to; every
fault is a run of characters on one line, perhaps an empty one. -/
theorem parse_on_lines (text : String) :
    (∀ occurrence ∈ (parse text).occurrences,
      occurrence.span.start < occurrence.span.stop ∧
        occurrence.span.slice? text.toList = some occurrence.name.toList ∧
        '\n' ∉ occurrence.name.toList ∧
        occurrence.line = (parse text).source.lineOf occurrence.span.start ∧
        ∃ content line, (parse text).source.line? occurrence.line = some content ∧
          Line.ofFragment? occurrence.line content = some line ∧
          line.content.start ≤ occurrence.span.start ∧
          occurrence.span.stop ≤ line.content.stop) ∧
      ∀ fault ∈ (parse text).faults,
        fault.span.start ≤ fault.span.stop ∧ fault.span.stop ≤ text.utf8ByteSize ∧
          (∃ covered, fault.span.slice? text.toList = some covered ∧ '\n' ∉ covered) ∧
          ∃ number content, (parse text).source.line? number = some content ∧
            content.start ≤ fault.span.start ∧ fault.span.stop ≤ content.stop := by
  constructor
  · intro occurrence isOccurrence
    obtain ⟨line, isLine, role, part, within, notEmpty, rfl⟩ :=
      occurrence_on_line isOccurrence
    have bounds := within.bounds
    have inside := Fragment.start_lt_stop notEmpty
    obtain ⟨content, contentEq, lineEq⟩ := Source.exists_text_of_mem_contentLines isLine
    refine ⟨inside, ?_, ?_, ?_, Source.content content, line, ?_, lineEq, bounds.1, bounds.2⟩
    · simpa [Occurrence.ofFragment, Fragment.text] using slice_of_within isLine within
    · simpa [Occurrence.ofFragment, Fragment.text] using not_lineFeed_of_within isLine within
    · exact (Source.lineOf_eq_number isLine bounds.1 (by omega)).symm
    · simp [Source.line?, Occurrence.ofFragment, contentEq]
  · intro fault isFault
    obtain ⟨line, isLine, part, within, spanEq⟩ := fault_on_line isFault
    obtain ⟨content, contentEq, lineEq⟩ := Source.exists_text_of_mem_contentLines isLine
    obtain ⟨_, contentWithin, _⟩ := Line.ofFragment?_spec lineEq
    have inWhole := (within.trans (Source.contentLine_within_whole isLine)).bounds
    have inContent := (within.trans contentWithin).bounds
    rw [spanEq]
    refine ⟨part.start_le_stop, ?_, ⟨part.chars, slice_of_within isLine within,
      not_lineFeed_of_within isLine within⟩, line.number, Source.content content, ?_,
      inContent.1, inContent.2⟩
    · rw [← byteSize_toList, ← Nat.zero_add (byteSize text.toList)]
      exact inWhole.2
    · simp [Source.line?, contentEq]

theorem eq_of_touches {scene : Scene} {offset : Nat} {first second : Occurrence}
    (isFirst : first ∈ scene.occurrences) (isSecond : second ∈ scene.occurrences)
    (firstNamed : first.isText = false) (secondNamed : second.isText = false)
    (firstTouches : first.span.touches offset = true)
    (secondTouches : second.span.touches offset = true) : first = second := by
  by_contra different
  rw [Span.touches_iff] at firstTouches secondTouches
  rcases before_or_behind scene.occurrences_pairwise isFirst isSecond different with
    before | behind
  · have := before.2 firstNamed secondNamed
    omega
  · have := behind.2 secondNamed firstNamed
    omega

/-- Occurrences stand one behind the other, two names never touch, and so a
cursor touches at most one name, which is the one that is looked up. -/
theorem parse_occurrences_separate (text : String) :
    ((parse text).occurrences.Pairwise fun first second =>
      first.span.stop ≤ second.span.start ∧
        (first.isText = false → second.isText = false →
          first.span.stop < second.span.start)) ∧
      ∀ offset occurrence, (parse text).occurrenceAt? offset = some occurrence ↔
        occurrence ∈ (parse text).occurrences ∧ occurrence.isText = false ∧
          occurrence.span.touches offset = true := by
  refine ⟨(parse text).occurrences_pairwise, ?_⟩
  intro offset occurrence
  constructor
  · intro isFound
    have isMember := List.mem_of_find?_eq_some isFound
    have satisfies := List.find?_some isFound
    simp only [Bool.and_eq_true, Bool.not_eq_true'] at satisfies
    exact ⟨isMember, satisfies.1, satisfies.2⟩
  · rintro ⟨isMember, named, touches⟩
    cases foundEq : (parse text).occurrenceAt? offset with
    | none =>
        have untouched := List.find?_eq_none.1 foundEq occurrence isMember
        simp [named, touches] at untouched
    | some found =>
        have isFound := List.mem_of_find?_eq_some foundEq
        have satisfies := List.find?_some foundEq
        simp only [Bool.and_eq_true, Bool.not_eq_true'] at satisfies
        rw [eq_of_touches isFound isMember satisfies.1 named satisfies.2 touches]

end Scene

end Gamebook
