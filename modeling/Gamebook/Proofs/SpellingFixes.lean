import Mathlib.Algebra.Group.Nat.Defs
import Gamebook.Proofs.WordRuns

/-!
# What quick fixes for spelling touch

A report on spelling has the span of a word, and the diagnostic made from it the range of that
span.  A quick fix gets nothing but the diagnostic and reads the word back through its range.
The way there and back ends at the same bytes: no word contains a carriage return or a line feed,
the only places where a position does not lead back to where it was taken.
-/

namespace Gamebook

namespace SpellChecker

variable {checker : SpellChecker} {scene : Scene} {report : Report}

theorem span_of_mem_unknownWords {occurrence : Occurrence} {word : Word}
    (isOccurrence : occurrence ∈ scene.occurrences)
    (isUnknown : word ∈ checker.unknownWords scene.source occurrence) :
    occurrence.span.start ≤ word.fragment.start ∧ word.fragment.start < word.fragment.stop ∧
      word.fragment.stop ≤ occurrence.span.stop := by
  obtain ⟨within, notEmpty, _⟩ := Word.scan_spec (List.mem_filter.1 isUnknown).1
  have inside := Fragment.start_lt_stop notEmpty
  have bounds := within.bounds
  have stopEq := congrArg Span.stop (Scene.within_of_mem_occurrences isOccurrence).2
  simp only [Fragment.span] at stopEq
  exact ⟨bounds.1, inside, by omega⟩

/-- Reports on spelling stand one behind the other: those of one run of prose because its words
do, those of different runs because the runs do. -/
theorem check_pairwise (checker : SpellChecker) (scene : Scene) :
    (checker.check scene).Pairwise fun first second =>
      first.span.start < second.span.start ∧ first.span.stop ≤ second.span.start := by
  rw [check, List.pairwise_flatMap]
  constructor
  · intro occurrence _
    rw [List.pairwise_map]
    exact Word.scan_pairwise.filter _
  · have inOrder : (scene.occurrencesOf .text).Pairwise Occurrence.Before :=
      scene.occurrences_pairwise.filter _
    apply inOrder.imp_of_mem
    intro first second isFirst isSecond before report inFirst later inSecond
    obtain ⟨word, isUnknown, rfl⟩ := List.mem_map.1 inFirst
    obtain ⟨other, isOther, rfl⟩ := List.mem_map.1 inSecond
    have bounds := span_of_mem_unknownWords (List.mem_filter.1 isFirst).1 isUnknown
    have otherBounds := span_of_mem_unknownWords (List.mem_filter.1 isSecond).1 isOther
    have gap := before.1
    simp only [Report.ofViolation, Fragment.span]
    omega

/-- The first diagnostic on spelling is the one that is fixed. -/
theorem quickFixes?_of_first {earlier later : List Diagnostic} {marker : Diagnostic} {word : String}
    (onSpelling : marker.isOf .badSpelling = true)
    (others : ∀ other ∈ earlier, other.isOf .badSpelling = false)
    (covers : scene.source.textIn? marker.range = some word) :
    checker.quickFixes? scene (earlier ++ marker :: later) =
      some ⟨marker, QuickFix.forWord word (checker.suggest word)⟩ := by
  have noneEarlier : earlier.find? (·.isOf .badSpelling) = none := by
    simpa using others
  simp [quickFixes?, List.find?_append, noneEarlier, onSpelling, covers]

/-- The reports on the spelling of a text shorter than 32 bits can count stand one behind the
other, each over the word it names.  Given the diagnostic of a report, whatever stands around it
as long as no other diagnostic on spelling comes first, the quick fixes are for this word: its
suggestions in order, then the ways to accept it.  The range they edit, that of the diagnostic,
leads back to the ends of the word. -/
theorem quickFixes_touch_word (text : String) (small : text.utf8ByteSize < 2 ^ 32)
    (checker : SpellChecker) :
    let scene := Scene.parse text
    ((checker.check scene).Pairwise fun first second =>
      first.span.start < second.span.start ∧ first.span.stop ≤ second.span.start) ∧
    ∀ report ∈ checker.check scene, ∃ word : String,
      report.span.slice? text.toList = some word.toList ∧
      report.message = s!"Unknown word '{word}'" ∧
      let marker := Diagnostic.ofReport scene.source report
      (∀ earlier later, (∀ other ∈ earlier, other.isOf .badSpelling = false) →
        checker.quickFixes? scene (earlier ++ marker :: later) =
          some ⟨marker,
            ((checker.suggest word).zipIdx.map fun (suggestion, index) =>
              .correct suggestion (index == 0)) ++
            [.accept ⟨.session, word⟩, .accept ⟨.persistent, word⟩]⟩) ∧
      scene.source.offsetOf? marker.range.start = some report.span.start ∧
      scene.source.offsetOf? marker.range.stop = some report.span.stop ∧
      ∀ position ∈ [marker.range.start, marker.range.stop],
        position.line ≤ unsignedLimit ∧ position.column ≤ unsignedLimit := by
  intro scene
  refine ⟨checker.check_pairwise scene, ?_⟩
  intro report isReport
  obtain ⟨prose, startsSentence, within, word, isWord, _, rfl⟩ := exists_word_of_mem_check isReport
  obtain ⟨wordWithin, _, _⟩ := Word.scan_spec isWord
  obtain ⟨startBack, stopBack⟩ := offsetOf?_rangeOf_word within isWord
  have sliceEq : word.fragment.span.slice? text.toList = some word.fragment.chars :=
    (wordWithin.trans within).slice rfl
  have sizes (offset : Nat) : (scene.source.positionOf offset).line ≤ unsignedLimit ∧
      (scene.source.positionOf offset).column ≤ unsignedLimit := by
    have bounds := scene.source.positionOf_le offset
    have sizeEq : byteSize scene.source.chars = text.utf8ByteSize := byteSize_toList text
    simp only [unsignedLimit]
    omega
  refine ⟨word.text, ?_, rfl, ?_, startBack, stopBack, ?_⟩
  · rw [Word.text, Fragment.text, String.toList_ofList]
    exact sliceEq
  · intro earlier later others
    exact quickFixes?_of_first rfl others (textIn?_rangeOf_word within isWord)
  · simp only [List.forall_mem_cons, Diagnostic.ofReport, Source.rangeOf]
    exact ⟨sizes _, sizes _, by simp⟩

/-- A word behind a character of two UTF-16 units, at the end of a line that ends with a carriage
return, with another tool's diagnostic in front. -/
theorem quickFixes_touch_word_before_return :
    let text := "“the 😀 zorblax\r\n"
    let checker : SpellChecker := { dictionary := .insert {} "the" }
    let scene := Scene.parse text
    let report : Report := .ofViolation (.unknownWord "zorblax") ⟨12, 19⟩
    let other : Diagnostic := { range := ⟨⟨0, 0⟩, ⟨0, 1⟩⟩, message := "Straight quotes only" }
    let marker := Diagnostic.ofReport scene.source report
    (text.utf8ByteSize < 2 ^ 32 ∧ report ∈ checker.check scene ∧
      ∀ diagnostic ∈ [other], diagnostic.isOf .badSpelling = false) ∧
    marker.range = ⟨⟨0, 8⟩, ⟨0, 15⟩⟩ ∧
    scene.source.offsetOf? marker.range.start = some 12 ∧
    scene.source.offsetOf? marker.range.stop = some 19 ∧
    ∃ word : String, report.span.slice? text.toList = some word.toList ∧
      checker.quickFixes? scene [other, marker] =
        some ⟨marker,
          ((checker.suggest word).zipIdx.map fun (suggestion, index) =>
            .correct suggestion (index == 0)) ++
          [.accept ⟨.session, word⟩, .accept ⟨.persistent, word⟩]⟩ := by
  intro text checker scene report other marker
  let word : Word := ⟨⟨12, "zorblax".toList⟩, false⟩
  let prose : Occurrence := ⟨.text, "“the 😀 zorblax", ⟨0, 19⟩, 0⟩
  have small : text.utf8ByteSize < 2 ^ 32 := by decide
  have isText : prose ∈ scene.occurrencesOf .text := by decide +kernel
  have isWord : word ∈ Word.scan (beginsSentence scene.source prose.span.start)
      ⟨prose.span.start, prose.name.toList⟩ := by
    decide +kernel
  have unknown : checker.isKnown word.text = false :=
    isKnown_of_word (by decide) (by decide) (by decide +kernel)
  have isReport : report ∈ checker.check scene :=
    mem_check_of_unknown isText isWord (by decide +kernel) unknown
  have others : ∀ diagnostic ∈ [other], diagnostic.isOf .badSpelling = false := by
    simp [other, Diagnostic.isOf]
  obtain ⟨named, sliceEq, _, fixes, startBack, stopBack, _⟩ :=
    (quickFixes_touch_word text small checker).2 report isReport
  exact ⟨⟨small, isReport, others⟩, by decide +kernel, startBack, stopBack, named, sliceEq,
    fixes [other] [] others⟩

end SpellChecker

end Gamebook
