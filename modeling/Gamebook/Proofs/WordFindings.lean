import Gamebook.Proofs.ProseRegions
import Gamebook.Proofs.ScenePlacement

/-!
# What is found in words

Whatever words are read as, an expression, prose, arguments or rows, only three things are
found in them: names, runs of prose and faults of wording.  This is shown once for all
ways of reading.  What later modules need to know about the findings of a line is a fact
about these three.
-/

namespace Gamebook

/-- The fault is in a name, a string literal or an interpolation. -/
def FaultCause.IsWording : FaultCause → Prop
  | unterminatedInterpolation | unterminatedString | invalidName _ => True
  | _ => False

/-- Whether the line is a command that declares a label. -/
def Line.isLabel (line : Line) : Bool :=
  line.command?.any (·.isLabel)

/-- What can be found in words.  Prose is only recorded if `recorded` holds, and labels
are only declared on lines with the numbers that `declares` tells of. -/
inductive Finding.InWords (recorded : Prop) (declares : Nat → Prop) : Finding → Prop
  | name {role : Role} {number : Nat} (named : role.OfNames (declares number)) (word : Fragment) :
      InWords recorded declares (.mention role number word)
  | text (isRecorded : recorded) (number : Nat) {part : Fragment}
      (openerFree : OpenerFree part.chars) :
      InWords recorded declares (.mention .text number part)
  | wrong {cause : FaultCause} (isWording : cause.IsWording) (span : Span) :
      InWords recorded declares (.wrong cause span)

namespace Finding.InWords

variable {recorded : Prop} {declares : Nat → Prop} {finding : Finding}

theorem mono {nowRecorded : Prop} {nowDeclares : Nat → Prop}
    (inWords : finding.InWords recorded declares) (records : recorded → nowRecorded)
    (allows : ∀ number, declares number → nowDeclares number) :
    finding.InWords nowRecorded nowDeclares := by
  cases inWords with
  | name named word => exact .name (named.mono (allows _)) word
  | text isRecorded number openerFree => exact .text (records isRecorded) number openerFree
  | wrong isWording span => exact .wrong isWording span

theorem isWording (inWords : finding.InWords recorded declares) {fault : Fault}
    (faultEq : finding.fault? = some fault) : fault.cause.IsWording := by
  cases inWords with
  | name named word => simp [mention, fault?] at faultEq
  | text isRecorded number openerFree => simp [mention, fault?] at faultEq
  | wrong isWording span => exact Option.some.inj faultEq ▸ isWording

theorem recorded_openerFree (inWords : finding.InWords recorded declares)
    {occurrence : Occurrence} (foundEq : finding.occurrence? = some occurrence)
    (isText : occurrence.isText = true) : recorded ∧ OpenerFree occurrence.name.toList := by
  cases inWords with
  | @name role _ named word =>
      obtain rfl := Option.some.inj foundEq
      have notText := named.notText
      cases role <;> simp_all [Occurrence.isText, Occurrence.kind, Occurrence.ofFragment, Role.kind]
  | text isRecorded number openerFree =>
      obtain rfl := Option.some.inj foundEq
      exact ⟨isRecorded, by simpa [Occurrence.ofFragment, Fragment.text] using openerFree⟩
  | wrong isWording span => simp [Finding.wrong, occurrence?] at foundEq

theorem declares_of_label (inWords : finding.InWords recorded declares)
    {occurrence : Occurrence} (foundEq : finding.occurrence? = some occurrence)
    (isLabel : occurrence.kind = .label) : declares occurrence.line := by
  cases inWords with
  | name named word =>
      obtain rfl := Option.some.inj foundEq
      exact named.ofLabel isLabel
  | text isRecorded number openerFree =>
      obtain rfl := Option.some.inj foundEq
      simp [Occurrence.kind, Occurrence.ofFragment, Role.kind] at isLabel
  | wrong isWording span => simp [Finding.wrong, occurrence?] at foundEq

end Finding.InWords

/-! ## Expressions and prose -/

/-- Expressions record no prose, and prose only its plain pieces. -/
theorem inWords_mentions (number : Nat) :
    (∀ expression, ∀ finding ∈ expressionFindings number expression,
      finding.InWords False fun _ => False) ∧
    ∀ recorded prose, ∀ finding ∈ proseFindings number recorded prose,
      finding.InWords (recorded = true) fun _ => False := by
  apply expression_prose_induction
  · intro expression strings finding isFinding
    rw [expressionFindings_eq] at isFinding
    rcases List.mem_append.1 isFinding with isEarlier | isFault
    · rcases List.mem_append.1 isEarlier with isRead | inString
      · obtain ⟨part, _, rfl⟩ := List.mem_map.1 isRead
        exact .name ⟨by simp, by simp [Role.kind]⟩ part
      · obtain ⟨string, isString, isFound⟩ := List.mem_flatMap.1 inString
        exact (strings string isString finding isFound).mono (by simp) (by simp)
    · obtain ⟨span, _, rfl⟩ := List.mem_map.1 isFault
      exact .wrong (by trivial) span
  · intro recorded prose values choices finding isFinding
    rw [proseFindings_eq] at isFinding
    obtain ⟨piece, isPiece, inPiece⟩ := List.mem_flatMap.1 isFinding
    cases piece with
    | plain part =>
        simp only [pieceFindings, plainFindings] at inPiece
        split at inPiece
        · rename_i isRecorded
          split at inPiece
          · obtain rfl := List.mem_singleton.1 inPiece
            exact .text isRecorded number (openerFree_of_plain isPiece)
          · simp at inPiece
        · simp at inPiece
    | unclosed part =>
        obtain rfl := List.mem_singleton.1 inPiece
        exact .wrong (by trivial) _
    | interpolation opener body =>
        cases opener with
        | value => exact (values body isPiece finding inPiece).mono (by simp) (by simp)
        | choice =>
            obtain ⟨selector, texts⟩ := choices body isPiece
            rcases List.mem_append.1 inPiece with inSelector | inTexts
            · exact (selector finding inSelector).mono (by simp) (by simp)
            · obtain ⟨alternative, isAlternative, isFound⟩ := List.mem_flatMap.1 inTexts
              exact texts alternative isAlternative finding isFound

section Words

variable {recorded : Prop} {declares : Nat → Prop} {finding : Finding} {number : Nat}

theorem inWords_of_mem_expressionFindings {place : Fragment}
    (isFinding : finding ∈ expressionFindings number place) :
    finding.InWords recorded declares :=
  ((inWords_mentions number).1 place finding isFinding).mono (by simp) (by simp)

theorem inWords_of_mem_proseFindings {place : Fragment}
    (isFinding : finding ∈ proseFindings number true place) : finding.InWords True declares :=
  ((inWords_mentions number).2 true place finding isFinding).mono (by simp) (by simp)

/-! ## Arguments and rows -/

theorem inWords_of_mem_nameFindings {role : Role} (named : role.OfNames (declares number))
    {word : Fragment} (isFinding : finding ∈ nameFindings role number word) :
    finding.InWords recorded declares := by
  unfold nameFindings at isFinding
  split at isFinding
  · obtain rfl := List.mem_singleton.1 isFinding
    exact .name named word
  · obtain rfl := List.mem_singleton.1 isFinding
    exact .wrong (by trivial) _

theorem Reading.inWords {declared : Prop} {place : Fragment} {findings : List Finding}
    (reading : Reading declared number place findings) (allows : declared → declares number) :
    ∀ finding ∈ findings, finding.InWords True declares := by
  induction reading with
  | nothing place => simp
  | name named word => exact fun _ => inWords_of_mem_nameFindings (named.mono allows)
  | names named place =>
      intro finding isFinding
      obtain ⟨word, _, isFound⟩ := List.mem_flatMap.1 isFinding
      exact inWords_of_mem_nameFindings (named.mono allows) isFound
  | mention named notEmpty =>
      intro finding isFinding
      obtain rfl := List.mem_singleton.1 isFinding
      exact .name (named.mono allows) _
  | expression place => exact fun _ => inWords_of_mem_expressionFindings
  | prose place => exact fun _ => inWords_of_mem_proseFindings
  | split splitEq _ _ wordIh restIh => exact List.forall_mem_append.2 ⟨wordIh, restIh⟩

theorem inWords_of_mem_sceneRowFindings {listed : Bool} {rows : List Line}
    (isFinding : finding ∈ sceneRowFindings listed rows) : finding.InWords recorded declares := by
  obtain ⟨row, _, inRow⟩ := List.mem_flatMap.1 isFinding
  obtain ⟨scene, _, rfl⟩ := List.mem_map.1 inRow
  exact .name ⟨by simp, by simp [Role.kind]⟩ scene

theorem inWords_of_mem_chartFindings {outline : Outline}
    (isFinding : finding ∈ chartFindings outline) : finding.InWords True declares := by
  induction outline with
  | nil => simp [chartFindings] at isFinding
  | entry row nested rest _ ih =>
      rw [chartFindings, List.mem_append] at isFinding
      rcases isFinding with inRow | inRest
      · split at inRow
        · simp at inRow
        · split at inRow
          · rcases List.mem_append.1 inRow with isSaid | isCaption
            · exact (Reading.ofChartRow False _ _).inWords False.elim finding isSaid
            · obtain ⟨name, _, isFound⟩ := List.mem_flatMap.1 isCaption
              exact inWords_of_mem_proseFindings isFound
          · simp at inRow
      · exact ih inRest

end Words

/-! ## Lines -/

/-- What a line mentions is found in words, and only a line for labels declares one, under its
own number. -/
theorem inWords_of_mem_lineFindings {surroundings : Surroundings} {previous : Option Command}
    {line : Line} {nested : Outline} {finding : Finding} {occurrence : Occurrence}
    (isFinding : finding ∈ lineFindings surroundings previous line nested)
    (foundEq : finding.occurrence? = some occurrence) :
    finding.InWords True fun number => line.isLabel = true ∧ number = line.number := by
  have notSilent (silent : finding.occurrence? = none) : False := by
    rw [silent] at foundEq
    contradiction
  have notFault {condition : Prop} [Decidable condition] {cause : FaultCause}
      (isFault : finding ∈ if condition then [.wrong cause line.span] else []) : False :=
    notSilent ((placed_faultIf line condition cause).2 finding isFault)
  unfold lineFindings at isFinding
  split at isFinding
  · rename_i command arguments kindEq
    have declares (isForm : command.arguments = .label) : line.isLabel = true := by
      simp [Line.isLabel, Line.command?, kindEq, LineKind.command?, Command.isLabel, isForm]
    simp only [commandFindings, List.mem_append] at isFinding
    rcases isFinding with ((isMissing | isOrphan) | inArguments) | inBody
    · exact (notFault isMissing).elim
    · exact (notFault isOrphan).elim
    · have reading := Reading.ofArguments line.number arguments command.arguments
      exact reading.inWords (fun isForm => ⟨declares isForm, rfl⟩) finding inArguments
    · cases reads : command.readsRows with
      | false => exact (notSilent (body_silent reads finding inBody).1).elim
      | true =>
          cases bodyEq : command.body with
          | scenes listed =>
              simp only [bodyFindings, bodyEq] at inBody
              exact inWords_of_mem_sceneRowFindings inBody
          | chart =>
              simp only [bodyFindings, bodyEq] at inBody
              exact inWords_of_mem_chartFindings inBody
          | _ => simp [Command.readsRows, bodyEq] at reads
  · rename_i option _
    rw [optionFindings, ← ite_not] at isFinding
    simp only [List.mem_append] at isFinding
    rcases isFinding with ((isOutside | inCondition) | inText) | isEmpty
    · exact (notFault isOutside).elim
    · obtain ⟨condition, _, isFound⟩ := List.mem_flatMap.1 inCondition
      exact inWords_of_mem_expressionFindings isFound
    · exact inWords_of_mem_proseFindings inText
    · exact (notFault isEmpty).elim
  · rcases List.mem_append.1 isFinding with inProse | isUnexpected
    · exact inWords_of_mem_proseFindings inProse
    · obtain ⟨first, _, rfl⟩ := List.mem_map.1 isUnexpected
      exact (notSilent rfl).elim
  · obtain rfl := List.mem_singleton.1 isFinding
    exact (notSilent rfl).elim

end Gamebook
