import Gamebook.Proofs.PositionRoundTrip
import Gamebook.Proofs.ReferenceAgreement
import Gamebook.Proofs.ScenePlacement
import Gamebook.Proofs.WordScan
import Gamebook.Server.Workspace

/-!
# Words and the diagnostics on them

A word that spell checking finds is a run of word characters in the prose of a scene.
A diagnostic on spelling is about such a word: its range covers the word and nothing else,
and the word is known to none of the dictionaries.  No other rule reports spelling.
-/

namespace Gamebook

/-! ## Blanks and words -/

def blankCodes : List Nat :=
  [0x9, 0xA, 0xB, 0xC, 0xD, 0x20, 0x85, 0xA0, 0x1680, 0x2000, 0x2001, 0x2002, 0x2003, 0x2004,
    0x2005, 0x2006, 0x2007, 0x2008, 0x2009, 0x200A, 0x2028, 0x2029, 0x202F, 0x205F, 0x3000]

theorem mem_blankCodes_of_isBlank {char : Char} (blank : isBlank char = true) :
    char.toNat ∈ blankCodes := by
  simp only [isBlank, Bool.or_eq_true, Bool.and_eq_true, decide_eq_true_eq, beq_iff_eq] at blank
  simp only [blankCodes, List.mem_cons, List.not_mem_nil, or_false]
  omega

theorem isWordChar_of_isBlank {char : Char} (blank : isBlank char = true) :
    isWordChar char = false := by
  have atCodes : ∀ code ∈ blankCodes, isWordChar (Char.ofNat code) = false := by decide +kernel
  simpa using atCodes char.toNat (mem_blankCodes_of_isBlank blank)

theorem mem_lowerChars_of_isBlank {char : Char} (blank : isBlank char = true) :
    char ∈ lowerChars char := by
  have atCodes : ∀ code ∈ blankCodes, Char.ofNat code ∈ lowerChars (Char.ofNat code) := by
    decide +kernel
  simpa using atCodes char.toNat (mem_blankCodes_of_isBlank blank)

theorem mem_blankCodes_of_isBlank_ofNat {code : Nat} (blank : isBlank (Char.ofNat code) = true) :
    code ∈ blankCodes := by
  have atCode := mem_blankCodes_of_isBlank blank
  by_cases valid : code.isValidChar
  · have codeEq : (Char.ofNat code).toNat = code := by
      rw [Char.ofNat, dif_pos valid]
      rfl
    rwa [codeEq] at atCode
  · have codeEq : (Char.ofNat code).toNat = 0 := by
      rw [Char.ofNat, dif_neg valid]
      rfl
    rw [codeEq] at atCode
    exact absurd atCode (by decide)

/-- No letter becomes a blank in lower case. -/
theorem isBlank_of_mem_lowerChars {char lower : Char} (isLower : lower ∈ lowerChars char)
    (blank : isBlank lower = true) : isBlank char = true := by
  have noLetter : ∀ code < 0x80, isBlank (Char.ofNat code).toLower = true →
      isBlank (Char.ofNat code) = true := by
    decide +kernel
  have noRun : ∀ run ∈ lowerRuns, ∀ code ∈ blankCodes, 0 < code ∧
      ¬ ((run.first : Int) ≤ code - run.distance ∧ code - run.distance ≤ (run.last : Int)) := by
    decide +kernel
  unfold lowerChars at isLower
  split at isLower
  · rename_i isAscii
    obtain rfl := List.mem_singleton.1 isLower
    simpa using noLetter char.toNat isAscii (by simpa using blank)
  · split at isLower
    · simp only [List.mem_cons, List.not_mem_nil, or_false] at isLower
      rcases isLower with rfl | rfl <;> exact absurd blank (by decide)
    · obtain rfl := List.mem_singleton.1 isLower
      unfold mapByRuns at blank
      split at blank
      · -- the character is in a run, whose images are no blanks
        rename_i run found
        have isCode := mem_blankCodes_of_isBlank_ofNat blank
        have inRun := List.find?_some found
        have outside := noRun run (List.mem_of_find?_eq_some found) _ isCode
        simp only [CodeRun.contains, Bool.and_eq_true, decide_eq_true_eq] at inRun
        simp only [CaseRun.target, Int.ofNat_eq_natCast] at outside
        omega
      · simpa using blank

theorem trimEndChars_eq_self {discard : Char → Bool} {text : List Char}
    (kept : ∀ char ∈ text, discard char = false) : trimEndChars discard text = text := by
  induction text with
  | nil => rfl
  | cons char rest ih =>
      obtain ⟨charKept, restKept⟩ := List.forall_mem_cons.1 kept
      rw [trimEndChars, ih restKept]
      cases rest <;> simp [charKept]

theorem trimBlanks_eq_self {text : String} (noBlank : ∀ char ∈ text.toList, isBlank char = false) :
    trimBlanks text = text := by
  have noneDropped : text.toList.dropWhile isBlank = text.toList := by
    cases charsEq : text.toList with
    | nil => rfl
    | cons char rest => simp [noBlank char (by simp [charsEq])]
  rw [trimBlanks, trimChars, noneDropped, trimEndChars_eq_self noBlank, String.ofList_toList]

/-- A text that is compared like a word of prose has no blanks around it. -/
theorem trimBlanks_of_normalize_eq {text word : String}
    (isProse : ∀ char ∈ text.toList, isWordChar char = true)
    (same : normalize text = normalize word) : trimBlanks word = word := by
  apply trimBlanks_eq_self
  intro char inWord
  by_contra isBlankChar
  have blank : isBlank char = true := by simpa using isBlankChar
  have notCurly : char ≠ '’' := by
    rintro rfl
    exact absurd blank (by decide)
  have inNormal : char ∈ (normalize word).toList := by
    simp only [normalize, String.toList_ofList, List.mem_flatMap]
    exact ⟨char, inWord, by rw [if_neg notCurly]; exact mem_lowerChars_of_isBlank blank⟩
  rw [← same] at inNormal
  simp only [normalize, String.toList_ofList, List.mem_flatMap] at inNormal
  obtain ⟨letter, inText, isLower⟩ := inNormal
  have letterBlank := isBlank_of_mem_lowerChars isLower blank
  split at letterBlank
  · exact absurd letterBlank (by decide)
  · simpa [isWordChar_of_isBlank letterBlank] using isProse letter inText

/-! ## Words of prose -/

namespace Word

variable {run prose : Fragment} {word : Word} {startsSentence : Bool}

theorem trimApostrophes_within (run : Fragment) : (trimApostrophes run).Within run := by
  obtain ⟨ending, endingEq⟩ := trimEndChars_append isApostrophe (run.dropWhile isApostrophe).chars
  have trimmed : (trimApostrophes run).Within (run.dropWhile isApostrophe) :=
    ⟨[], ending, by simpa [trimApostrophes] using endingEq.symm, by simp [trimApostrophes]⟩
  exact trimmed.trans (Fragment.dropWhile_within _ _)

theorem ofRun?_spec (isWord : ofRun? startsSentence run = some word) :
    word.fragment.Within run ∧ word.fragment.chars ≠ [] := by
  unfold ofRun? at isWord
  simp only at isWord
  split at isWord
  · simp at isWord
  · rename_i notEmpty
    obtain rfl := Option.some.inj isWord
    exact ⟨trimApostrophes_within run, by simpa [Fragment.isEmpty] using notEmpty⟩

theorem scan_spec (isWord : word ∈ scan startsSentence prose) :
    word.fragment.Within prose ∧ word.fragment.chars ≠ [] ∧
      ∀ char ∈ word.fragment.chars, isWordChar char = true := by
  rw [scan_eq_byRuns] at isWord
  fun_induction byRuns startsSentence prose with
  | case1 startsSentence prose rest isEmpty => simp at isWord
  | case2 startsSentence prose rest notEmpty gap ih =>
      have restWithin : rest.Within prose := Fragment.dropWhile_within _ _
      rcases List.mem_append.1 isWord with isFirst | isLater
      · obtain ⟨within, wordNotEmpty⟩ := ofRun?_spec (Option.mem_toList.1 isFirst)
        refine ⟨(within.trans (Fragment.takeWhile_within _ _)).trans restWithin, wordNotEmpty, ?_⟩
        intro char inWord
        exact List.all_eq_true.1 List.all_takeWhile char (within.mem inWord)
      · obtain ⟨within, rest⟩ := ih isLater
        exact ⟨(within.trans (Fragment.dropWhile_within _ _)).trans restWithin, rest⟩

end Word

/-! ## Ranges of words -/

/-- The range of a part that starts with no line feed and ends with no carriage return leads back
to its span. -/
theorem Source.offsetOf?_rangeOf {source : Source} {part : Fragment}
    (within : part.Within source.whole) (notEmpty : part.chars ≠ [])
    (noFeed : part.chars.head? ≠ some '\n') (noReturn : part.chars.getLast? ≠ some '\r') :
    source.offsetOf? (source.rangeOf part.span).start = some part.span.start ∧
      source.offsetOf? (source.rangeOf part.span).stop = some part.span.stop := by
  obtain ⟨before, after, charsEq, startEq⟩ := within
  have sourceEq : source.chars = before ++ part.chars ++ after := charsEq
  have startSize : part.span.start = byteSize before := by
    simpa [whole, Fragment.span] using startEq
  have stopSize : part.span.stop = byteSize (before ++ part.chars) := by
    rw [byteSize_append, ← startSize]
    rfl
  have atStart : isBehindReturn before (part.chars ++ after) = false := by
    cases partEq : part.chars with
    | nil => exact absurd partEq notEmpty
    | cons char rest => simpa [isBehindReturn, partEq] using fun _ => noFeed
  have atStop : isBehindReturn (before ++ part.chars) after = false := by
    have lastEq : (before ++ part.chars).getLast? = part.chars.getLast? := by
      rw [List.getLast?_append, List.getLast?_eq_some_getLast notEmpty, Option.some_or]
    simp [isBehindReturn, lastEq, noReturn]
  have startBack := offsetOf?_positionOf (sourceEq.trans (List.append_assoc _ _ _))
  have stopBack := offsetOf?_positionOf sourceEq
  rw [atStart, ← startSize] at startBack
  rw [atStop, ← stopSize] at stopBack
  exact ⟨startBack, stopBack⟩

section WordRanges

variable {source : Source} {prose : Fragment} {word : Word} {startsSentence : Bool}

theorem offsetOf?_rangeOf_word (within : prose.Within source.whole)
    (isWord : word ∈ Word.scan startsSentence prose) :
    source.offsetOf? (source.rangeOf word.fragment.span).start = some word.fragment.span.start ∧
      source.offsetOf? (source.rangeOf word.fragment.span).stop =
        some word.fragment.span.stop := by
  obtain ⟨wordWithin, notEmpty, isProse⟩ := Word.scan_spec isWord
  apply Source.offsetOf?_rangeOf (wordWithin.trans within) notEmpty
  · intro isFeed
    exact absurd (isProse _ (List.mem_of_mem_head? isFeed)) (by decide)
  · intro isReturn
    exact absurd (isProse _ (List.mem_of_getLast? isReturn)) (by decide)

theorem textIn?_rangeOf_word (within : prose.Within source.whole)
    (isWord : word ∈ Word.scan startsSentence prose) :
    source.textIn? (source.rangeOf word.fragment.span) = some word.text := by
  obtain ⟨wordWithin, notEmpty, _⟩ := Word.scan_spec isWord
  obtain ⟨startBack, stopBack⟩ := offsetOf?_rangeOf_word within isWord
  have sliceEq : word.fragment.span.slice? source.chars = some word.fragment.chars :=
    (wordWithin.trans within).slice rfl
  simp [Source.textIn?, startBack, stopBack, Source.slice, Span.text, sliceEq, notEmpty, Word.text,
    Fragment.text]

end WordRanges

/-! ## Diagnostics on spelling -/

theorem Rule.code_injective : ∀ first second : Rule, first.code = second.code → first = second := by
  decide

theorem referenceViolation?_rule {scene : Scene} {context : CheckContext}
    {occurrence : Occurrence} {violation : Violation}
    (found : referenceViolation? scene context occurrence = some violation) :
    violation.rule ≠ .badSpelling := by
  intro isSpelling
  have isOnReference := referenceViolation?_onReference found
  simp [isSpelling, Rule.isOnReference] at isOnReference

theorem allReports_rule {scene : Scene} {context : CheckContext} :
    ∀ report ∈ allReports scene context, report.rule ≠ .badSpelling := by
  intro report isReport
  simp only [allReports, List.mem_append] at isReport
  rcases isReport with ((isFault | isDeclaration) | isReference) | isUnreachable
  · obtain ⟨fault, _, rfl⟩ := List.mem_map.1 isFault
    show fault.cause.rule ≠ .badSpelling
    cases fault.cause <;> simp [FaultCause.rule]
  · rcases declarationReports_rule _ _ _ report isDeclaration with ruleEq | ruleEq | ruleEq <;>
      simp [ruleEq]
  · obtain ⟨occurrence, _, reportEq⟩ := List.mem_filterMap.1 isReference
    obtain ⟨violation, found, rfl⟩ := Option.map_eq_some_iff.1 reportEq
    exact referenceViolation?_rule found
  · simp [unreachableReports_rule _ _ report isUnreachable]

theorem validate_rule {scene : Scene} {context : CheckContext} {options : ValidationOptions} :
    ∀ report ∈ validate scene context options, report.rule ≠ .badSpelling := by
  intro report isReport
  obtain ⟨original, isOriginal, adjusted⟩ :=
    List.mem_filterMap.1 (List.mem_mergeSort.1 isReport)
  obtain ⟨severity, _, rfl⟩ := Option.map_eq_some_iff.1 adjusted
  exact allReports_rule original isOriginal

theorem Scene.within_of_mem_occurrences {scene : Scene} {occurrence : Occurrence}
    (isOccurrence : occurrence ∈ scene.occurrences) :
    (⟨occurrence.span.start, occurrence.name.toList⟩ : Fragment).Within scene.source.whole ∧
      (⟨occurrence.span.start, occurrence.name.toList⟩ : Fragment).span = occurrence.span := by
  obtain ⟨line, isLine, role, part, within, _, rfl⟩ := Scene.occurrence_on_line isOccurrence
  have partEq : (⟨(Occurrence.ofFragment role part line.number).span.start,
      (Occurrence.ofFragment role part line.number).name.toList⟩ : Fragment) = part := by
    simp [Occurrence.ofFragment, Fragment.span, Fragment.text]
  rw [partEq]
  exact ⟨within.trans (Source.contentLine_within_whole isLine), rfl⟩

theorem SpellChecker.exists_word_of_mem_check {checker : SpellChecker} {scene : Scene}
    {report : Report} (isReport : report ∈ checker.check scene) :
    ∃ prose startsSentence, prose.Within scene.source.whole ∧
      ∃ word ∈ Word.scan startsSentence prose, checker.isKnown word.text = false ∧
        report = .ofViolation (.unknownWord word.text) word.fragment.span := by
  obtain ⟨occurrence, isText, inOccurrence⟩ := List.mem_flatMap.1 isReport
  obtain ⟨word, isUnknown, rfl⟩ := List.mem_map.1 inOccurrence
  obtain ⟨isWord, checked⟩ := List.mem_filter.1 isUnknown
  have isOccurrence : occurrence ∈ scene.occurrences := (List.mem_filter.1 isText).1
  simp only [Bool.and_eq_true, Bool.not_eq_true'] at checked
  exact ⟨_, _, (Scene.within_of_mem_occurrences isOccurrence).1, word, isWord, checked.2, rfl⟩

/-- A report on spelling is about a word of prose that no dictionary has. -/
theorem SpellChecker.check_spec {checker : SpellChecker} {scene : Scene} {report : Report}
    (isReport : report ∈ checker.check scene) :
    ∃ word : String, report.violation = .unknownWord word ∧ checker.isKnown word = false ∧
      (∀ char ∈ word.toList, isWordChar char = true) ∧
      scene.source.textIn? (scene.source.rangeOf report.span) = some word := by
  obtain ⟨prose, startsSentence, within, word, isWord, unknown, rfl⟩ :=
    exists_word_of_mem_check isReport
  refine ⟨word.text, rfl, unknown, ?_, textIn?_rangeOf_word within isWord⟩
  simpa [Word.text, Fragment.text] using (Word.scan_spec isWord).2.2

/-- A diagnostic on spelling covers a word that the checker does not know. -/
theorem Workspace.diagnose_spelling {workspace : Workspace} {files : FileTree}
    {document : Document} {diagnostic : Diagnostic}
    (isDiagnostic : diagnostic ∈ (workspace.diagnose files document).2)
    (onSpelling : diagnostic.isOf .badSpelling = true) :
    ∃ checker word, (workspace.withSpelling files).checker? = some checker ∧
      checker.isKnown word = false ∧ (∀ char ∈ word.toList, isWordChar char = true) ∧
      document.scene.source.textIn? diagnostic.range = some word := by
  obtain ⟨report, isReport, rfl⟩ := List.mem_map.1 isDiagnostic
  have ruleEq : report.rule = .badSpelling := by
    apply Rule.code_injective
    simpa [Diagnostic.isOf, Diagnostic.ofReport] using onSpelling
  simp only [reports, List.mem_mergeSort, List.mem_append] at isReport
  rcases isReport with isStructural | isSpelling
  · exact absurd ruleEq (validate_rule report isStructural)
  · cases checkerEq : (workspace.withSpelling files).checker? with
    | none => simp [checkerEq] at isSpelling
    | some checker =>
        have isReport : report ∈ checker.check document.scene := by
          simpa [checkerEq] using isSpelling
        obtain ⟨word, _, unknown, isProse, covers⟩ := SpellChecker.check_spec isReport
        exact ⟨checker, word, rfl, unknown, isProse, covers⟩

theorem SpellChecker.mem_check_of_unknown {checker : SpellChecker} {scene : Scene}
    {occurrence : Occurrence} {word : Word} (isText : occurrence ∈ scene.occurrencesOf .text)
    (isWord : word ∈ Word.scan (beginsSentence scene.source occurrence.span.start)
      ⟨occurrence.span.start, occurrence.name.toList⟩)
    (isChecked : word.isChecked = true) (unknown : checker.isKnown word.text = false) :
    .ofViolation (.unknownWord word.text) word.fragment.span ∈ checker.check scene := by
  have isUnknown : word ∈ checker.unknownWords scene.source occurrence :=
    List.mem_filter.2 ⟨isWord, by simp [isChecked, unknown]⟩
  exact List.mem_flatMap.2 ⟨occurrence, isText, List.mem_map.2 ⟨word, isUnknown, rfl⟩⟩

/-- A checked word that the checker does not know has a diagnostic on it. -/
theorem Workspace.exists_diagnostic_of_unknown {workspace : Workspace} {files : FileTree}
    {document : Document} {checker : SpellChecker} {occurrence : Occurrence} {word : Word}
    (checkerEq : (workspace.withSpelling files).checker? = some checker)
    (isText : occurrence ∈ document.scene.occurrencesOf .text)
    (isWord : word ∈ Word.scan (beginsSentence document.scene.source occurrence.span.start)
      ⟨occurrence.span.start, occurrence.name.toList⟩)
    (isChecked : word.isChecked = true) (unknown : checker.isKnown word.text = false) :
    ∃ diagnostic ∈ (workspace.diagnose files document).2, diagnostic.isOf .badSpelling = true ∧
      document.scene.source.textIn? diagnostic.range = some word.text := by
  have isReport := SpellChecker.mem_check_of_unknown isText isWord isChecked unknown
  obtain ⟨text, violationEq, _, _, covers⟩ := SpellChecker.check_spec isReport
  obtain rfl : word.text = text := Violation.unknownWord.inj violationEq
  refine ⟨_, List.mem_map_of_mem ?_, rfl, covers⟩
  rw [reports, List.mem_mergeSort, checkerEq]
  exact List.mem_append_right _ isReport

/-! ## Dictionaries of one word -/

namespace Dictionary

variable {word : String}

theorem insert_empty (notEmpty : normalize word ≠ "") :
    insert {} word =
      ⟨({} : Std.HashMap String Nat).insert (normalize word) 0, #[normalize word]⟩ := by
  simp [insert, insert?, notEmpty]

/-- A file with one word on its only line is the dictionary of this word. -/
theorem load_word {files : FileTree} {path text : String} (content : files.read ⟨path⟩ = .ok text)
    (lineEq : textLines text = [word.toList]) (isWord : wordOfLine? true word.toList = some word)
    (notEmpty : normalize word ≠ "") : load files path = .ok (insert {} word) := by
  have wordsEq : ofWordList text = insert {} word := by simp [ofWordList, lineEq, isWord]
  simp [load, content, wordsEq, insert_empty notEmpty, isEmpty]

end Dictionary

theorem SpellChecker.isKnown_of_word {known word : String} (notEmpty : normalize known ≠ "")
    (different : normalize (normalize word) ≠ normalize known)
    (noStem : stems (normalize (normalize word)).toList = []) :
    ({ dictionary := .insert {} known } : SpellChecker).isKnown word = false := by
  simp [isKnown, Dictionary.containsInflected, Dictionary.insert_empty notEmpty, noStem,
    Std.HashMap.contains_insert, Ne.symm different, UserDictionary.contains]

end Gamebook
