import Gamebook.Proofs.ChoiceStructure
import Mathlib.Data.List.Nodup

/-!
# Which prose is recorded

The plain pieces of prose are recorded if they have a letter, wherever prose is read: on
lines of their own, in options, captions and arguments, and in the texts that an
interpolation chooses from.  Nothing else is, so that no recorded run has an opener in
it, and on a line of prose exactly the letters outside regions are recorded.
-/

namespace Gamebook

namespace Scene

variable {scene : Scene} {place : Place} {occurrence : Occurrence}

theorem mem_occurrences_iff_exists_place :
    occurrence ∈ scene.occurrences ↔
      ∃ place ∈ scene.outline.places, ∃ finding ∈ place.findings,
        finding.occurrence? = some occurrence := by
  rw [mem_occurrences_iff]
  constructor
  · rintro ⟨finding, isFinding, foundEq⟩
    rcases List.mem_append.1 isFinding with isIndent | isFinding
    · have silent := (silent_indentFindings none scene.outline finding isIndent).1
      simp [silent] at foundEq
    · rw [Outline.findings_eq_flatMap_places] at isFinding
      obtain ⟨place, isPlace, isFound⟩ := List.mem_flatMap.1 isFinding
      exact ⟨place, isPlace, finding, isFound, foundEq⟩
  · rintro ⟨place, isPlace, finding, isFound, foundEq⟩
    refine ⟨finding, List.mem_append_right _ ?_, foundEq⟩
    rw [Outline.findings_eq_flatMap_places]
    exact List.mem_flatMap_of_mem isPlace isFound

theorem openerFree_of_mem (isOccurrence : occurrence ∈ scene.occurrences)
    (isText : occurrence.isText = true) : OpenerFree occurrence.name.toList := by
  obtain ⟨place, _, finding, isFound, foundEq⟩ := mem_occurrences_iff_exists_place.1 isOccurrence
  unfold Place.findings at isFound
  split at isFound
  · exact ((inWords_of_mem_lineFindings isFound foundEq).recorded_openerFree foundEq isText).2
  · simp at isFound

theorem place_eq_of_line_eq {first second : Place} (isFirst : first ∈ scene.outline.places)
    (isSecond : second ∈ scene.outline.places) (lineEq : first.line = second.line) :
    first = second := by
  have distinct := scene.lines_nodup
  rw [← scene.outline.map_line_placesFrom [] []] at distinct
  exact List.inj_on_of_nodup_map distinct isFirst isSecond lineEq

theorem within_isSome_of_walked (isWalked : place ∈ scene.outline.walked) :
    (Surroundings.within place.above).isSome = true := by
  obtain ⟨isPlace, notHidden⟩ := Outline.mem_walked_iff.1 isWalked
  have known : ∀ line ∈ place.above, line.Known := fun line isAbove =>
    known_of_mem_lines (Outline.above_subset_lines isPlace isAbove)
  rw [Surroundings.within_eq known, if_pos (by simpa using notHidden)]
  rfl

/-- What is mentioned at a place is on its line, or on rows under it that are not walked. -/
theorem on_line_or_row {finding : Finding} (isPlace : place ∈ scene.outline.places)
    (isFound : finding ∈ place.findings) (foundEq : finding.occurrence? = some occurrence) :
    finding.On place.line.number place.line.content ∨
      Surroundings.within (place.line :: place.above) = none ∧
        ∃ row ∈ place.nested.lines, finding.On row.number row.content := by
  unfold Place.findings at isFound
  split at isFound
  · rename_i surroundings withinEq
    obtain ⟨own, under, findingsEq, placed, nestedOr⟩ :=
      lineFindings_split (kind_eq_ofContent (Outline.line_mem_lines isPlace))
        (scene.lines_pairwise.sublist (Outline.nested_lines_sublist isPlace)) surroundings
        (previousOf place.before)
    rw [findingsEq] at isFound
    rcases List.mem_append.1 isFound with isOwn | isUnder
    · exact .inl (placed.on finding isOwn)
    · rcases nestedOr with rows | silent
      · exact .inr ⟨by simp [Surroundings.within, withinEq, rows.2], rows.1.on finding isUnder⟩
      · simp [(silent finding isUnder).1] at foundEq
  · simp at isFound

theorem notMem_nested_of_unwalked {upper : Place} (isUpper : upper ∈ scene.outline.places)
    (unwalked : Surroundings.within (upper.line :: upper.above) = none)
    (isWalked : place ∈ scene.outline.walked) : place.line ∉ upper.nested.lines := by
  intro isNested
  obtain ⟨isPlace, _⟩ := Outline.mem_walked_iff.1 isWalked
  rw [← upper.nested.map_line_placesFrom (upper.line :: upper.above) []] at isNested
  obtain ⟨lower, isLower, lineEq⟩ := List.mem_map.1 isNested
  obtain rfl := place_eq_of_line_eq (Outline.below_subset isUpper isLower) isPlace lineEq
  obtain ⟨between, aboveEq, _⟩ := Outline.exists_between isLower
  have isSome := within_isSome_of_walked isWalked
  rw [aboveEq, Surroundings.within_append_eq_none between unwalked] at isSome
  contradiction

/-- What is mentioned on a line that is walked is found at the place of that line. -/
theorem exists_finding_of_line_eq (isWalked : place ∈ scene.outline.walked)
    (isOccurrence : occurrence ∈ scene.occurrences)
    (onLine : occurrence.line = place.line.number) :
    ∃ finding ∈ place.findings, finding.occurrence? = some occurrence := by
  obtain ⟨isPlace, _⟩ := Outline.mem_walked_iff.1 isWalked
  obtain ⟨other, isOther, finding, isFound, foundEq⟩ :=
    mem_occurrences_iff_exists_place.1 isOccurrence
  have lineEq {line : Line} (isLine : line ∈ scene.outline.lines)
      (on : finding.On line.number line.content) : line = place.line := by
    obtain ⟨_, _, _, _, rfl⟩ := on.occurrence_spec foundEq
    exact line_eq_of_number_eq isLine (Outline.line_mem_lines isPlace) onLine
  rcases on_line_or_row isOther isFound foundEq with on | ⟨unwalked, row, isRow, on⟩
  · obtain rfl := place_eq_of_line_eq isOther isPlace (lineEq (Outline.line_mem_lines isOther) on)
    exact ⟨finding, isFound, foundEq⟩
  · have isNested := isRow
    rw [lineEq (Outline.nested_lines_subset isOther isRow) on] at isNested
    exact absurd isNested (notMem_nested_of_unwalked isOther unwalked isWalked)

theorem findings_of_prose (isWalked : place ∈ scene.outline.walked)
    (isProse : place.line.kind = .prose) :
    place.findings = proseFindings place.line.number true place.line.content ++
      unexpectedFindings place.nested := by
  obtain ⟨surroundings, withinEq⟩ := Option.isSome_iff_exists.1 (within_isSome_of_walked isWalked)
  rw [Place.findings, withinEq]
  simp only [lineFindings, isProse]

/-- On a line of prose a scene mentions what this prose mentions. -/
theorem mem_occurrences_on_prose_iff (isWalked : place ∈ scene.outline.walked)
    (isProse : place.line.kind = .prose) :
    (occurrence ∈ scene.occurrences ∧ occurrence.line = place.line.number) ↔
      ∃ finding ∈ proseFindings place.line.number true place.line.content,
        finding.occurrence? = some occurrence := by
  have findingsEq := findings_of_prose isWalked isProse
  constructor
  · rintro ⟨isOccurrence, onLine⟩
    obtain ⟨finding, isFound, foundEq⟩ := exists_finding_of_line_eq isWalked isOccurrence onLine
    rw [findingsEq] at isFound
    rcases List.mem_append.1 isFound with inProse | isUnexpected
    · exact ⟨finding, inProse, foundEq⟩
    · obtain ⟨first, _, rfl⟩ := List.mem_map.1 isUnexpected
      cases foundEq
  · rintro ⟨finding, inProse, foundEq⟩
    constructor
    · refine mem_occurrences_iff_exists_place.2
        ⟨place, (Outline.mem_walked_iff.1 isWalked).1, finding, ?_, foundEq⟩
      rw [findingsEq]
      exact List.mem_append_left _ inProse
    · obtain ⟨_, _, _, _, rfl⟩ :=
        ((placed_prose _ true _).on finding inProse).occurrence_spec foundEq
      rfl

end Scene

/-! ## Letters and regions of a line -/

/-- The runs of recorded prose that cover the span. -/
def Scene.textsOver (scene : Scene) (span : Span) : List Occurrence :=
  scene.occurrences.filter fun occurrence =>
    occurrence.isText && decide (occurrence.span.Covers span)

theorem Finding.on_of_mem_pieceFindings {finding : Finding} {number : Nat} {recorded : Bool}
    {piece : Piece} (isFinding : finding ∈ pieceFindings number recorded piece) :
    finding.On number piece.place := by
  match piece with
  | .plain part =>
      rw [pieceFindings] at isFinding
      split at isFinding
      · exact (placed_plain number part).on finding isFinding
      · simp at isFinding
  | .unclosed part => exact (Placed.wrong number _ (.refl part)).on finding isFinding
  | .interpolation .value body => exact (placed_expression number body).on finding isFinding
  | .interpolation .choice body =>
      exact (placed_choice (placed_expression number _)
        fun text _ => (placed_mentions number).2 recorded text).on finding isFinding

namespace Scene

variable {scene : Scene} {place : Place} {occurrence : Occurrence}

/-- No two runs cover the same bytes. -/
theorem textsOver_eq_singleton {span : Span} (isOccurrence : occurrence ∈ scene.occurrences)
    (isText : occurrence.isText = true) (covers : occurrence.span.Covers span)
    (notEmpty : span.start < span.stop) : scene.textsOver span = [occurrence] := by
  have ordered : (scene.textsOver span).Pairwise Occurrence.Before :=
    scene.occurrences_pairwise.filter _
  have isMember : occurrence ∈ scene.textsOver span :=
    List.mem_filter.2 ⟨isOccurrence, by simp [isText, covers]⟩
  have allCover : ∀ other ∈ scene.textsOver span, other.span.Covers span := by
    intro other isOther
    simpa using (Bool.and_eq_true_iff.1 (List.mem_filter.1 isOther).2).2
  match listEq : scene.textsOver span with
  | [] => simp [listEq] at isMember
  | [other] =>
      rw [listEq, List.mem_singleton] at isMember
      rw [isMember]
  | first :: second :: others =>
      rw [listEq] at ordered allCover
      have before := ((List.pairwise_cons.1 ordered).1 second (by simp)).1
      have firstCovers := (allCover first (by simp)).2
      have secondCovers := (allCover second (by simp)).1
      omega

theorem exists_text_of_outlying (isWalked : place ∈ scene.outline.walked)
    (isProse : place.line.kind = .prose) {before after : List Char} {char : Char}
    (charsEq : place.line.content.chars = before ++ char :: after) (letter : isLetter char = true)
    (outlying : Outlying place.line.content.chars before) :
    ∃ occurrence, scene.textsOver
      (.ofSize (place.line.content.start + byteSize before) char.utf8Size) = [occurrence] := by
  rw [charsEq] at outlying
  have reached := (reached_or_covered before after char).resolve_right (by
    rintro ⟨opener, start, region, isRegion, startLe, ltStop⟩
    have := outlying.outside opener start region isRegion
    omega)
  obtain ⟨part, isPiece, inPart, covers⟩ :=
    exists_plain_of_reached place.line.content.start reached.1 reached.2 outlying.beforeUnclosed
  rw [← charsEq] at isPiece
  have isRecorded : .mention .text place.line.number part ∈
      proseFindings place.line.number true place.line.content := by
    rw [proseFindings_eq]
    refine List.mem_flatMap_of_mem isPiece ?_
    have hasLetter : part.chars.any isLetter = true := List.any_eq_true.2 ⟨char, inPart, letter⟩
    simp [pieceFindings, plainFindings, hasLetter]
  obtain ⟨isOccurrence, _⟩ :=
    (mem_occurrences_on_prose_iff isWalked isProse).2 ⟨_, isRecorded, rfl⟩
  have := char.utf8Size_pos
  exact ⟨_, textsOver_eq_singleton isOccurrence rfl covers (by simp only [Span.ofSize]; omega)⟩

theorem text_off_region (isWalked : place ∈ scene.outline.walked)
    (isProse : place.line.kind = .prose) {before region : List Char}
    (isRegion : RegionAt place.line.content.chars before region .value)
    (isOccurrence : occurrence ∈ scene.occurrences) (isText : occurrence.isText = true) :
    occurrence.span.stop ≤ place.line.content.start + byteSize before ∨
      place.line.content.start + byteSize before + byteSize region ≤ occurrence.span.start := by
  obtain ⟨line, isLine, role, part, within, notEmpty, occurrenceEq⟩ :=
    occurrence_on_line isOccurrence
  have bounds := within.bounds
  have isOwnLine : place.line ∈ scene.source.contentLines := by
    rw [← outline_lines]
    exact Outline.line_mem_lines (Outline.mem_walked_iff.1 isWalked).1
  by_cases sameLine : line = place.line
  · subst sameLine
    obtain ⟨finding, isFinding, foundEq⟩ := (mem_occurrences_on_prose_iff isWalked isProse).1
      ⟨isOccurrence, by rw [occurrenceEq]; rfl⟩
    rw [proseFindings_eq] at isFinding
    obtain ⟨piece, isPiece, inPiece⟩ := List.mem_flatMap.1 isFinding
    have pieceBounds := (Finding.on_of_mem_pieceFindings inPiece).bounds foundEq
    rcases piece_of_region place.line.content.start isRegion isPiece with
      stopLe | leStart | ⟨body, rfl⟩ | ⟨rest, rfl⟩
    · exact .inl (Nat.le_trans pieceBounds.2.2.2 stopLe)
    · exact .inr (Nat.le_trans leStart pieceBounds.2.1)
    · have inWords : finding.InWords False fun _ => False :=
        inWords_of_mem_expressionFindings inPiece
      exact (inWords.recorded_openerFree foundEq isText).1.elim
    · obtain rfl := List.mem_singleton.1 inPiece
      cases foundEq
  · obtain ⟨_, after, reached⟩ := isRegion
    have contentStop : place.line.content.start + byteSize before + byteSize region ≤
        place.line.content.stop := by
      rw [Fragment.stop, reached.append_eq, byteSize_append, byteSize_append]
      omega
    rw [occurrenceEq]
    simp only [Occurrence.ofFragment, Fragment.span]
    rcases before_or_behind scene.source.contentLines_pairwise isLine isOwnLine sameLine with
      isBefore | isBehind
    · have := isBefore.2
      omega
    · have := isBehind.2
      omega

/-- Prose is recorded exactly where it is not code.  On a line of prose that is walked, every
letter outside interpolations, and before an opener that is left open, is in one recorded
run, and none reaches into an interpolation that shows a value.  No recorded run of a scene
has an opener in it. -/
theorem recorded_prose_exact (scene : Scene) :
    (∀ place ∈ scene.outline.walked, place.line.kind = .prose →
      (∀ before char after, place.line.content.chars = before ++ char :: after →
        isLetter char = true → Outlying place.line.content.chars before →
          ∃ occurrence, scene.textsOver
            (.ofSize (place.line.content.start + byteSize before) char.utf8Size) =
              [occurrence]) ∧
        ∀ before region, RegionAt place.line.content.chars before region .value →
          ∀ occurrence ∈ scene.occurrences, occurrence.isText = true →
            occurrence.span.stop ≤ place.line.content.start + byteSize before ∨
              place.line.content.start + byteSize before + byteSize region ≤
                occurrence.span.start) ∧
      ∀ occurrence ∈ scene.occurrences, occurrence.isText = true →
        OpenerFree occurrence.name.toList := by
  refine ⟨?_, fun occurrence => openerFree_of_mem⟩
  intro place isWalked isProse
  constructor
  · intro before char after charsEq letter outlying
    exact exists_text_of_outlying isWalked isProse charsEq letter outlying
  · intro before region isRegion occurrence isOccurrence isText
    exact text_off_region isWalked isProse isRegion isOccurrence isText

/-- A letter of two bytes before an interpolation, and one with a brace inside. -/
theorem recorded_prose_exact_around_region :
    let scene := parse "é ${a{1}} @{b x|y}"
    ∃ place ∈ scene.outline.walked, place.line.kind = .prose ∧
      Outlying place.line.content.chars [] ∧
      RegionAt place.line.content.chars "é ".toList "${a{1}}".toList .value ∧
      (∃ occurrence, scene.textsOver ⟨0, 2⟩ = [occurrence]) ∧
      ∀ occurrence ∈ scene.occurrences, occurrence.isText = true →
        (occurrence.span.stop ≤ 3 ∨ 10 ≤ occurrence.span.start) ∧
          OpenerFree occurrence.name.toList := by
  intro scene
  let line : Line := ⟨0, 0, ⟨0, "é ${a{1}} @{b x|y}".toList⟩, .prose⟩
  have outlineEq : scene.outline = .entry line .nil .nil := by decide +kernel
  have isWalked : ⟨[], [], line, .nil⟩ ∈ scene.outline.walked := by
    rw [outlineEq]
    exact List.mem_filter.2 ⟨by simp [Outline.places, Outline.placesFrom], rfl⟩
  have outlying : Outlying line.content.chars [] := outlying_nil rfl
  have isRegion : RegionAt line.content.chars "é ".toList "${a{1}}".toList .value := by
    have body : Closes 0 ['a', '{', '1', '}'] :=
      (@closes_cons_iff 'a' _ 0 0 rfl).2 <| (@closes_cons_iff '{' _ 0 1 rfl).2 <|
        (@closes_cons_iff '1' _ 1 1 rfl).2 <| (@closes_cons_iff '}' _ 1 0 rfl).2 ⟨by simp, rfl⟩
    refine ⟨.intro (by decide : ['$', '{'] ∈ Opener.value.openings) body, " @{b x|y}".toList, ?_⟩
    exact .past (noRegion_of_ofChars? rfl) (.past (noRegion_of_ofChars? rfl) (.start _))
  obtain ⟨atLine, openerFree⟩ := recorded_prose_exact scene
  obtain ⟨letters, regions⟩ := atLine _ isWalked rfl
  refine ⟨_, isWalked, rfl, outlying, isRegion, ?_, ?_⟩
  · exact letters [] 'é' " ${a{1}} @{b x|y}".toList rfl (by decide +kernel) outlying
  · intro occurrence isOccurrence isText
    exact ⟨regions _ _ isRegion occurrence isOccurrence isText,
      openerFree occurrence isOccurrence isText⟩

end Scene

end Gamebook
