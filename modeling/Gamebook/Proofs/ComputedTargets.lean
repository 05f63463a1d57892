import Gamebook.Proofs.DelimiterTokens
import Gamebook.Proofs.RecordedProse
import Gamebook.Proofs.ReferenceAgreement
import Gamebook.Proofs.ReferenceClasses

/-!
# Targets that are computed

The target of a jump may be an expression in braces that computes a name.  Behind a jump
within the scene such a word is read as an expression: each variable in it is recorded,
found as a reference, and checked to be declared.  Jumps to other scenes do not read it.
The word for the scene is recorded as the name of one, the word for the label not at all,
and no variable in either is ever seen.
-/

namespace Gamebook

/-! ## Variables of an expression on one line -/

/-- On one line nothing but a backslash can follow a quote without its partner. -/
theorem Token.rest_of_unfinished {rest : List Char} (isError : (scanToken '"' rest).1 = .error)
    (noFeed : '\n' ∉ rest) :
    (scanToken '"' rest).2.2 = [] ∨ (scanToken '"' rest).2.2 = ['\\'] := by
  have shape := scanToken_shape '"' rest
  have appended := scanToken_append '"' rest
  rw [isError] at shape
  generalize (scanToken '"' rest).2.1 = lexeme at shape appended
  generalize (scanToken '"' rest).2.2 = behind at shape appended
  cases shape with
  | plain isPlain => exact absurd (isPlain '"' List.mem_cons_self) (by decide)
  | unfinished isQuoted atEnd =>
      refine atEnd.resolve_left fun hasFeed => noFeed ?_
      rw [← appended]
      exact List.mem_append_right _ hasFeed

theorem Token.scanFrom_backslash (start : Nat) :
    scanFrom start ['\\'] = [⟨.error, ⟨start, ['\\']⟩⟩] := by
  simp [scanFrom, scanToken, scanSymbol, symbolKind, isNameStart]

namespace ExpressionScan

/-- On one line every name that is not reserved is read. -/
theorem lexeme_mem_reads_scanFrom {start stop : Nat} {text : List Char} {token : Token}
    (noFeed : '\n' ∉ text) (isToken : token ∈ Token.scanFrom start text)
    (isIdentifier : token.kind = .identifier) (notReserved : isReserved token.lexeme.text = false) :
    token.lexeme ∈ (ofTokens stop (Token.scanFrom start text)).reads := by
  fun_induction Token.scanFrom start text with
  | case1 start => simp at isToken
  | case2 start char rest blank ih =>
      exact ih (fun hasFeed => noFeed (List.mem_cons_of_mem _ hasFeed)) isToken
  | case3 start char rest notBlank scanned ih =>
      have noFeedRest : '\n' ∉ rest := fun hasFeed => noFeed (List.mem_cons_of_mem _ hasFeed)
      have noFeedBehind : '\n' ∉ scanned.2.2 := by
        intro hasFeed
        apply noFeedRest
        rw [← Token.scanToken_append char rest]
        exact List.mem_append_right _ hasFeed
      rw [ofTokens]
      rcases List.mem_cons.1 isToken with rfl | isLater
      · simp only at isIdentifier notReserved
        simp [isIdentifier, notReserved]
      · have read := ih noFeedBehind isLater
        split
        · split
          · exact read
          · exact List.mem_cons_of_mem _ read
        · exact read
        · rename_i isError
          split
          · rename_i isQuote
            -- the scan stops here, and there is no name left to be read
            obtain rfl : char = '"' := by simpa using isQuote
            have behind : scanned.2.2 = [] ∨ scanned.2.2 = ['\\'] :=
              Token.rest_of_unfinished isError noFeedRest
            rcases behind with isNil | isBackslash
            · simp [isNil, Token.scanFrom] at isLater
            · rw [isBackslash, Token.scanFrom_backslash, List.mem_singleton] at isLater
              simp [isLater] at isIdentifier
          · exact read
        · exact read

theorem lexeme_mem_reads {expression : Fragment} {token : Token}
    (noFeed : '\n' ∉ expression.chars) (isToken : token ∈ Token.scan expression)
    (isIdentifier : token.kind = .identifier)
    (notReserved : isReserved token.lexeme.text = false) :
    token.lexeme ∈ (ofFragment expression).reads :=
  lexeme_mem_reads_scanFrom noFeed isToken isIdentifier notReserved

end ExpressionScan

/-! ## Lines of commands -/

namespace Scene

variable {scene : Scene} {place : Place} {occurrence : Occurrence} {command : Command}
  {arguments : Fragment}

/-- On a line of a command that does not read the lines under it, a scene mentions what the
arguments mention. -/
theorem mem_occurrences_on_command_iff (isWalked : place ∈ scene.outline.walked)
    (kindEq : place.line.kind = .command command arguments)
    (walks : command.readsRows = false) :
    (occurrence ∈ scene.occurrences ∧ occurrence.line = place.line.number) ↔
      ∃ finding ∈ argumentFindings place.line.number arguments command.arguments,
        finding.occurrence? = some occurrence := by
  obtain ⟨surroundings, withinEq⟩ := Option.isSome_iff_exists.1 (within_isSome_of_walked isWalked)
  have findingsEq : place.findings =
      commandFindings (previousOf place.before) command arguments place.line place.nested := by
    rw [Place.findings, withinEq]
    simp only [lineFindings, kindEq]
  constructor
  · rintro ⟨isOccurrence, onLine⟩
    obtain ⟨finding, isFound, foundEq⟩ := exists_finding_of_line_eq isWalked isOccurrence onLine
    rw [findingsEq, commandFindings] at isFound
    have silentIf (condition : Prop) [Decidable condition] (cause : FaultCause)
        (isFault : finding ∈ if condition then [.wrong cause place.line.span] else []) : False := by
      have silent := (placed_faultIf place.line condition cause).2 finding isFault
      simp [silent] at foundEq
    rcases List.mem_append.1 isFound with isFound | inBody
    · rcases List.mem_append.1 isFound with isFault | inArguments
      · rcases List.mem_append.1 isFault with isMissing | isOrphan
        · exact (silentIf _ _ isMissing).elim
        · exact (silentIf _ _ isOrphan).elim
      · exact ⟨finding, inArguments, foundEq⟩
    · simp [(body_silent walks finding inBody).1] at foundEq
  · rintro ⟨finding, inArguments, foundEq⟩
    constructor
    · refine mem_occurrences_iff_exists_place.2
        ⟨place, (Outline.mem_walked_iff.1 isWalked).1, finding, ?_, foundEq⟩
      rw [findingsEq]
      exact List.mem_append_left _ (List.mem_append_right _ inArguments)
    · obtain ⟨_, _, _, _, rfl⟩ :=
        ((Reading.ofArguments _ _ _).placed.on finding inArguments).occurrence_spec foundEq
      rfl

/-- What stands in the content of a line is on that line. -/
theorem line_eq_of_covers {line : Line} (isLine : line ∈ scene.outline.lines)
    (isOccurrence : occurrence ∈ scene.occurrences)
    (covers : line.content.span.Covers occurrence.span) : occurrence.line = line.number := by
  obtain ⟨other, isOther, role, part, within, notEmpty, rfl⟩ := occurrence_on_line isOccurrence
  rw [outline_lines] at isLine
  have bounds := within.bounds
  have inside := Fragment.start_lt_stop notEmpty
  obtain ⟨startLe, leStop⟩ := covers
  simp only [Occurrence.ofFragment, Fragment.span] at startLe leStop
  by_contra different
  have linesDiffer : other ≠ line := fun lineEq => different (by rw [← lineEq]; rfl)
  rcases before_or_behind scene.source.contentLines_pairwise isOther isLine linesDiffer with
    isBefore | isBehind
  · have := isBefore.2
    omega
  · have := isBehind.2
    omega

end Scene

/-! ## Jumps -/

theorem Command.jump_of_name : ∀ command ∈ table, command.name ∈ ["goto", "gosub"] →
    command.arguments = .jump ∧ command.readsRows = false := by
  decide +kernel

theorem Command.sceneJump_of_name : ∀ command ∈ table,
    command.name ∈ ["goto_scene", "gosub_scene", "redirect_scene"] →
      command.arguments = .sceneJump ∧ command.readsRows = false := by
  decide +kernel

namespace Scene

variable {scene : Scene} {place : Place} {occurrence : Occurrence} {command : Command}
  {arguments word rest label values : Fragment}

theorem command_spec (isWalked : place ∈ scene.outline.walked)
    (kindEq : place.line.kind = .command command arguments) :
    command ∈ Command.table ∧ arguments.Within place.line.content := by
  have contentEq := kind_eq_ofContent (Outline.line_mem_lines (Outline.mem_walked_iff.1 isWalked).1)
  rw [kindEq] at contentEq
  exact ⟨LineKind.known_ofContent contentEq.symm, LineKind.ofContent_command contentEq.symm⟩

/-- What stands in the arguments of a command is mentioned by them. -/
theorem exists_argument_finding (isWalked : place ∈ scene.outline.walked)
    (kindEq : place.line.kind = .command command arguments)
    (walks : command.readsRows = false) (isOccurrence : occurrence ∈ scene.occurrences)
    {part : Fragment} (within : part.Within arguments)
    (covers : part.span.Covers occurrence.span) :
    ∃ finding ∈ argumentFindings place.line.number arguments command.arguments,
      finding.occurrence? = some occurrence := by
  have isLine := Outline.line_mem_lines (Outline.mem_walked_iff.1 isWalked).1
  have bounds := (within.trans (command_spec isWalked kindEq).2).bounds
  have contentCovers : place.line.content.span.Covers occurrence.span :=
    ⟨Nat.le_trans bounds.1 covers.1, Nat.le_trans covers.2 bounds.2⟩
  have onLine := line_eq_of_covers isLine isOccurrence contentCovers
  exact (mem_occurrences_on_command_iff isWalked kindEq walks).1 ⟨isOccurrence, onLine⟩

/-- Every variable in the computed target of a jump within the scene is recorded. -/
theorem read_mem_occurrences (isWalked : place ∈ scene.outline.walked)
    (kindEq : place.line.kind = .command command arguments)
    (named : command.name ∈ ["goto", "gosub"])
    (splitEq : arguments.splitWord? = some (word, rest)) (computed : isComputed word = true)
    {token : Token} (isToken : token ∈ Token.scan word) (isIdentifier : token.kind = .identifier)
    (notReserved : isReserved token.lexeme.text = false) :
    .ofFragment .variableRead token.lexeme place.line.number ∈ scene.occurrences := by
  obtain ⟨known, within⟩ := command_spec isWalked kindEq
  obtain ⟨argumentsEq, walks⟩ := Command.jump_of_name command known named
  have isLine : place.line ∈ scene.source.contentLines := by
    rw [← outline_lines]
    exact Outline.line_mem_lines (Outline.mem_walked_iff.1 isWalked).1
  have noFeed : '\n' ∉ word.chars :=
    not_lineFeed_of_within isLine ((Fragment.splitWord?_spec splitEq).1.trans within)
  have isRead := ExpressionScan.lexeme_mem_reads noFeed isToken isIdentifier notReserved
  have isFinding : .mention .variableRead place.line.number token.lexeme ∈
      argumentFindings place.line.number arguments command.arguments := by
    simp only [argumentsEq, argumentFindings, splitEq, computed, if_true]
    rw [expressionFindings_eq]
    exact List.mem_append_left _ (List.mem_append_left _ (List.mem_append_left _
      (List.mem_map_of_mem isRead)))
  exact ((mem_occurrences_on_command_iff isWalked kindEq walks).2 ⟨_, isFinding, rfl⟩).1

/-- The word for the scene of a jump is recorded as its name, and nothing else in it is. -/
theorem mem_occurrences_in_sceneWord_iff (isWalked : place ∈ scene.outline.walked)
    (kindEq : place.line.kind = .command command arguments)
    (named : command.name ∈ ["goto_scene", "gosub_scene", "redirect_scene"])
    (splitEq : arguments.splitWord? = some (word, rest)) :
    (occurrence ∈ scene.occurrences ∧ word.span.Covers occurrence.span) ↔
      occurrence = .ofFragment (.sceneReference false) word place.line.number := by
  obtain ⟨argumentsEq, walks⟩ :=
    Command.sceneJump_of_name command (command_spec isWalked kindEq).1 named
  obtain ⟨within, _, _, before⟩ := Fragment.splitWord?_spec splitEq
  constructor
  · rintro ⟨isOccurrence, covers⟩
    obtain ⟨finding, isFinding, foundEq⟩ :=
      exists_argument_finding isWalked kindEq walks isOccurrence within covers
    simp only [argumentsEq, argumentFindings, splitEq] at isFinding
    rcases List.mem_cons.1 isFinding with rfl | inRest
    · exact (Option.some.inj foundEq).symm
    · -- what follows the word stands behind a gap
      have bounds := ((Reading.sceneLabel False word rest).placed.on finding inRest).bounds foundEq
      have gap := before bounds.1
      have stopLe := covers.2
      simp only [Fragment.span] at stopLe
      omega
  · rintro rfl
    have isFinding : .mention (.sceneReference false) place.line.number word ∈
        argumentFindings place.line.number arguments command.arguments := by
      simp only [argumentsEq, argumentFindings, splitEq]
      exact List.mem_cons_self
    exact ⟨((mem_occurrences_on_command_iff isWalked kindEq walks).2 ⟨_, isFinding, rfl⟩).1,
      Nat.le_refl _, Nat.le_refl _⟩

/-- Nothing in the computed label of a jump to another scene is recorded. -/
theorem not_mem_occurrences_in_computedLabel (isWalked : place ∈ scene.outline.walked)
    (kindEq : place.line.kind = .command command arguments)
    (named : command.name ∈ ["goto_scene", "gosub_scene", "redirect_scene"])
    (splitEq : arguments.splitWord? = some (word, rest))
    (labelEq : rest.splitWord? = some (label, values)) (computed : isComputed label = true)
    (isOccurrence : occurrence ∈ scene.occurrences) : ¬ label.span.Covers occurrence.span := by
  intro covers
  obtain ⟨argumentsEq, walks⟩ :=
    Command.sceneJump_of_name command (command_spec isWalked kindEq).1 named
  obtain ⟨_, _, restWithin, before⟩ := Fragment.splitWord?_spec splitEq
  obtain ⟨labelWithin, labelNotEmpty, _, labelBefore⟩ := Fragment.splitWord?_spec labelEq
  obtain ⟨finding, isFinding, foundEq⟩ := exists_argument_finding isWalked kindEq walks
    isOccurrence (labelWithin.trans restWithin) covers
  simp only [argumentsEq, argumentFindings, splitEq, labelEq, sceneLabelFindings, computed,
    if_true, List.nil_append] at isFinding
  obtain ⟨startLe, leStop⟩ := covers
  simp only [Fragment.span] at startLe leStop
  rcases List.mem_cons.1 isFinding with rfl | inValues
  · -- the word for the scene ends before the label
    obtain rfl := Option.some.inj foundEq
    have gap := before (labelWithin.notEmpty labelNotEmpty)
    have := labelWithin.bounds.1
    have := word.start_le_stop
    simp only [Occurrence.ofFragment, Fragment.span] at startLe
    omega
  · have bounds := ((placed_expression _ values).on finding inValues).bounds foundEq
    have gap := labelBefore bounds.1
    omega

end Scene

/-! ## What the project sees -/

theorem Outline.single_mem_walked (line : Line) :
    ⟨[], [], line, .nil⟩ ∈ (entry line .nil .nil).walked :=
  List.mem_filter.2 ⟨by simp [places, placesFrom], rfl⟩

namespace ProjectIndex

/-- The occurrence is seen as the use of a variable: it is recorded, it is one of the
references of that variable, and with all rules on it is reported exactly if the game does
not provide the variable and the known scenes do not declare it. -/
structure SeesVariable (index : ProjectIndex) (document : Document) (occurrence : Occurrence) :
    Prop where
  recorded : occurrence ∈ document.scene.occurrences
  referenced : (.ofDocument document, occurrence) ∈
    (index.around document).references (.ofDocument document) (.var occurrence.key)
  checked : ∀ options : ValidationOptions, (∀ rule, (options.severityFor rule).isSome = true) →
    (Reported
        (validate document.scene ⟨document.uri.sceneName, (index.around document).scope⟩ options)
        .undeclaredVariable occurrence.span ↔
      (index.around document).startup?.isSome = true ∧
        isBuiltinVariable occurrence.key = false ∧
        (index.around document).resolve? (.ofDocument document) (.var occurrence.key) = none)

theorem seesVariable_of_mem {index : ProjectIndex} {document : Document} {occurrence : Occurrence}
    (isOccurrence : occurrence ∈ document.scene.occurrences)
    (isRead : occurrence.role = .variableRead) : index.SeesVariable document occurrence where
  recorded := isOccurrence
  referenced := by
    have isScene : .ofDocument document ∈ (index.around document).scenes :=
      ProjectSnapshot.mem_scenes_iff.2 ⟨document.uri, index.document?_around document⟩
    refine ProjectSnapshot.mem_references_iff.2 ⟨isScene, isOccurrence, ?_⟩
    rw [ProjectSnapshot.anchor?, Symbol.of?, isRead]
    rfl
  checked := by
    intro options allOn
    rw [reported_reference_iff allOn isOccurrence rfl, referenceViolation?, isRead,
      ← undeclaredVariable_iff]
    exact objection_iff

/-- Every variable in the computed target of a jump within the scene is seen.  In a jump to
another scene none is: a computed scene is recorded as if it were the name of one, with
nothing else in it, and in a computed label nothing is recorded. -/
theorem computed_targets_seen (index : ProjectIndex) (document : Document) (place : Place)
    (isWalked : place ∈ document.scene.outline.walked) (command : Command)
    (arguments word rest : Fragment) (kindEq : place.line.kind = .command command arguments)
    (splitEq : arguments.splitWord? = some (word, rest)) :
    (command.name ∈ ["goto", "gosub"] → isComputed word = true →
      ∀ token ∈ Token.scan word, token.kind = .identifier →
        isReserved token.lexeme.text = false →
          index.SeesVariable document
            (.ofFragment .variableRead token.lexeme place.line.number)) ∧
      (command.name ∈ ["goto_scene", "gosub_scene", "redirect_scene"] →
        (∀ occurrence, (occurrence ∈ document.scene.occurrences ∧
            word.span.Covers occurrence.span) ↔
          occurrence = .ofFragment (.sceneReference false) word place.line.number) ∧
        ∀ label values, rest.splitWord? = some (label, values) → isComputed label = true →
          ∀ occurrence ∈ document.scene.occurrences, ¬ label.span.Covers occurrence.span) := by
  constructor
  · intro named computed token isToken isIdentifier notReserved
    exact seesVariable_of_mem (Scene.read_mem_occurrences isWalked kindEq named splitEq computed
      isToken isIdentifier notReserved) rfl
  · intro named
    refine ⟨fun occurrence => Scene.mem_occurrences_in_sceneWord_iff isWalked kindEq named splitEq,
      ?_⟩
    intro label values labelEq computed occurrence isOccurrence
    exact Scene.not_mem_occurrences_in_computedLabel isWalked kindEq named splitEq labelEq computed
      isOccurrence

/-- A misspelt variable behind a reserved word: it is seen, and reported. -/
theorem computed_targets_seen_of_gosub :
    let index := ProjectIndex.update {}
      [.ofText "file:///game/startup.txt" 1 "*create Courage 10"]
    let document := Document.ofText "file:///game/chapter.txt" 1 "*gosub {not(corage)}"
    let occurrence : Occurrence := ⟨.variableRead, "corage", ⟨12, 18⟩, 0⟩
    (∃ place ∈ document.scene.outline.walked, ∃ command arguments word rest,
      place.line.kind = .command command arguments ∧ command.name = "gosub" ∧
        arguments.splitWord? = some (word, rest) ∧ isComputed word = true) ∧
      index.SeesVariable document occurrence ∧
      Reported
        (validate document.scene ⟨document.uri.sceneName, (index.around document).scope⟩ {})
        .undeclaredVariable occurrence.span := by
  intro index document occurrence
  have kindEq : LineKind.ofContent ⟨0, "*gosub {not(corage)}".toList⟩ =
      .command ⟨"gosub", .jump, .none, false, true, "Jump to a label and return afterwards."⟩
        ⟨7, "{not(corage)}".toList⟩ := by decide +kernel
  let line : Line := ⟨0, 0, ⟨0, "*gosub {not(corage)}".toList⟩,
    .ofContent ⟨0, "*gosub {not(corage)}".toList⟩⟩
  have outlineEq : document.scene.outline = .entry line .nil .nil := by decide +kernel
  have isWalked : ⟨[], [], line, .nil⟩ ∈ document.scene.outline.walked := by
    rw [outlineEq]
    exact Outline.single_mem_walked line
  have splitEq : Fragment.splitWord? ⟨7, "{not(corage)}".toList⟩ =
      some (⟨7, "{not(corage)}".toList⟩, ⟨20, []⟩) := by decide +kernel
  have isToken : ⟨.identifier, ⟨12, "corage".toList⟩⟩ ∈
      Token.scan ⟨7, "{not(corage)}".toList⟩ := by decide +kernel
  have seen : index.SeesVariable document occurrence :=
    (computed_targets_seen index document _ isWalked _ _ _ _ kindEq splitEq).1
      (by decide) rfl _ isToken rfl (by decide +kernel)
  have nowhere : (index.around document).resolve? (.ofDocument document) (.var occurrence.key) =
      none := Option.isNone_iff_eq_none.1 (by decide +kernel)
  exact ⟨⟨_, isWalked, _, _, _, _, kindEq, rfl, splitEq, rfl⟩, seen,
    (seen.checked {} (by decide)).2 ⟨by decide +kernel, by decide +kernel, nowhere⟩⟩

/-- In a jump to another scene the names in both computed words are missed, and nothing is
reported although neither is declared. -/
theorem computed_targets_missed_of_goto_scene :
    let index := ProjectIndex.update {}
      [.ofText "file:///game/startup.txt" 1 "*create Courage 10"]
    let document := Document.ofText "file:///game/chapter.txt" 1 "*goto_scene {place} {spot}"
    (∃ place ∈ document.scene.outline.walked, ∃ command arguments word rest label values,
      place.line.kind = .command command arguments ∧ command.name = "goto_scene" ∧
        arguments.splitWord? = some (word, rest) ∧ rest.splitWord? = some (label, values) ∧
        ∀ part ∈ [word, label], isComputed part = true ∧
          ∃ token ∈ Token.scan part, token.kind = .identifier ∧
            isReserved token.lexeme.text = false ∧
            .ofFragment .variableRead token.lexeme place.line.number ∉
              document.scene.occurrences) ∧
      validate document.scene ⟨document.uri.sceneName, (index.around document).scope⟩ {} = [] := by
  intro index document
  have kindEq : LineKind.ofContent ⟨0, "*goto_scene {place} {spot}".toList⟩ =
      .command ⟨"goto_scene", .sceneJump, .none, true, true, "Jump to another scene."⟩
        ⟨12, "{place} {spot}".toList⟩ := by decide +kernel
  let line : Line := ⟨0, 0, ⟨0, "*goto_scene {place} {spot}".toList⟩,
    .ofContent ⟨0, "*goto_scene {place} {spot}".toList⟩⟩
  have outlineEq : document.scene.outline = .entry line .nil .nil := by decide +kernel
  have isWalked : ⟨[], [], line, .nil⟩ ∈ document.scene.outline.walked := by
    rw [outlineEq]
    exact Outline.single_mem_walked line
  refine ⟨⟨_, isWalked, _, _, ⟨12, "{place}".toList⟩, ⟨20, "{spot}".toList⟩,
    ⟨20, "{spot}".toList⟩, ⟨26, []⟩, kindEq, rfl, by decide +kernel, by decide +kernel, ?_⟩,
    by decide +kernel⟩
  rw [List.forall_mem_cons, List.forall_mem_singleton]
  exact ⟨⟨rfl, ⟨.identifier, ⟨13, "place".toList⟩⟩, by decide +kernel⟩,
    ⟨rfl, ⟨.identifier, ⟨21, "spot".toList⟩⟩, by decide +kernel⟩⟩

end ProjectIndex

end Gamebook
