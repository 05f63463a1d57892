import Mathlib.Data.List.Perm.Basic
import Gamebook.Proofs.PositionRoundTrip
import Gamebook.Proofs.ScenePlacement
import Gamebook.Proofs.ShiftedLines

/-!
# Scenes written one below the other

A text whose first line is not indented can be written below any other text,
whatever is still open there: choices, branches and blocks end where the
indentation does.  The outline of the two together is the outline of the first
followed by the outline of the second, and so are the occurrences, the second
ones moved behind the first text and its line feed.  Faults are not compared:
whether a branch continues a condition depends on the line above it.
-/

namespace Gamebook

/-! ## Lines -/

theorem length_linesFrom (start : Nat) (text : List Char) :
    (linesFrom start text).length = text.count '\n' + 1 := by
  induction text generalizing start with
  | nil => rfl
  | cons char rest ih =>
      have ofRest := ih (start + char.utf8Size)
      rw [linesFrom] at ofRest ⊢
      cases isFeed : char == '\n' with
      | true =>
          rw [Fragment.splitOn, if_pos isFeed, List.length_cons, ofRest, List.count_cons,
            if_pos isFeed]
      | false =>
          obtain ⟨first, others, restEq⟩ :=
            Fragment.exists_splitOn_eq_cons (· == '\n') (start + char.utf8Size) rest
          have lineEq : Fragment.splitOn (· == '\n') start (char :: rest) =
              ⟨start, char :: first⟩ :: others :=
            Fragment.splitOn_cons_of_not_border isFeed restEq
          rw [restEq] at ofRest
          rw [lineEq, List.count_cons, isFeed]
          exact ofRest

namespace Source

theorem linesFrom_append (number : Nat) (front back : List Fragment) :
    Source.linesFrom number (front ++ back) =
      Source.linesFrom number front ++ Source.linesFrom (number + front.length) back := by
  rw [linesFrom_eq_filterMap, linesFrom_eq_filterMap, linesFrom_eq_filterMap,
    List.zipIdx_append, List.filterMap_append]

/-- The lines of two texts with a line feed between them. -/
theorem contentLines_append (above below : List Char) :
    (ofChars (above ++ '\n' :: below)).contentLines =
      (ofChars above).contentLines ++
        (ofChars below).contentLines.map
          (·.shift (byteSize above + 1) (above.count '\n' + 1)) := by
  have linesEq : Gamebook.linesFrom 0 (above ++ '\n' :: below) =
      Gamebook.linesFrom 0 above ++
        (Gamebook.linesFrom 0 below).map (·.shift (byteSize above + 1)) := by
    rw [Gamebook.linesFrom, Fragment.splitOn_append_border (by decide), byteSize_append,
      Fragment.splitOn_shift]
    rfl
  have shifted := linesFrom_shift (byteSize above + 1) (above.count '\n' + 1) 0
    (Gamebook.linesFrom 0 below)
  change Source.linesFrom 0 (Gamebook.linesFrom 0 (above ++ '\n' :: below)) = _
  rw [linesEq, linesFrom_append, length_linesFrom, shifted]
  rfl

end Source

/-! ## Outlines -/

namespace Outline

/-- The entries of one outline and behind them, on the same level, those of
another. -/
def append : Outline → Outline → Outline
  | nil, second => second
  | entry line nested rest, second => entry line nested (rest.append second)

instance : Append Outline := ⟨append⟩

/-- A line that is not indented starts anew, whatever stands above it. -/
theorem ofLines_append {later : List Line} (flush : ∀ line ∈ later.head?, line.indent = 0)
    (earlier : List Line) : ofLines (earlier ++ later) = ofLines earlier ++ ofLines later := by
  fun_induction ofLines earlier with
  | case1 => rfl
  | case2 line rest _ restIh =>
      have shallow : ∀ other ∈ later.head?, decide (line.indent < other.indent) = false := by
        intro other isFirst
        simp [flush other isFirst]
      rw [List.cons_append, ofLines, takeWhile_append_of_head? shallow,
        dropWhile_append_of_head? shallow, restIh]
      rfl

end Outline

theorem Source.outline_append {whole above below : Source} {bytes lines : Nat}
    (linesEq : whole.contentLines =
      above.contentLines ++ below.contentLines.map (·.shift bytes lines))
    (flush : ∀ line ∈ below.contentLines.head?, line.indent = 0) :
    whole.outline = above.outline ++ below.outline.shift bytes lines := by
  have shiftedFlush :
      ∀ line ∈ (below.contentLines.map (·.shift bytes lines)).head?, line.indent = 0 := by
    intro line isFirst
    rw [List.head?_map] at isFirst
    obtain ⟨original, isOriginal, rfl⟩ := Option.map_eq_some_iff.1 isFirst
    exact flush original isOriginal
  simp only [outline_eq_ofLines]
  rw [linesEq, Outline.ofLines_append shiftedFlush, Outline.ofLines_shift]

/-! ## Occurrences -/

/-- The occurrences among the findings, as they were noticed. -/
def noticed (findings : List Finding) : List Occurrence :=
  findings.filterMap (·.occurrence?)

theorem noticed_append (first second : List Finding) :
    noticed (first ++ second) = noticed first ++ noticed second :=
  List.filterMap_append

theorem noticed_map_shift (bytes lines : Nat) (findings : List Finding) :
    noticed (findings.map (·.shift bytes lines)) =
      (noticed findings).map (·.shift bytes lines) := by
  rw [noticed, noticed, List.filterMap_map, List.map_filterMap]
  congr 1
  funext finding
  cases finding <;> rfl

theorem noticed_faultIf (condition : Prop) [Decidable condition] (cause : FaultCause)
    (span : Span) :
    noticed (if condition then [Finding.wrong cause span] else []) = [] := by
  split <;> rfl

/-- Which command stood before only decides about a fault. -/
theorem noticed_lineFindings (surroundings : Surroundings) (previous other : Option Command)
    (line : Line) (nested : Outline) :
    noticed (lineFindings surroundings previous line nested) =
      noticed (lineFindings surroundings other line nested) := by
  rw [lineFindings, lineFindings]
  cases line.kind with
  | command known arguments =>
      simp only [commandFindings, noticed_append, noticed_faultIf]
  | option | prose | unknown => rfl

namespace Outline

theorem noticed_findings_previous (outline : Outline) (surroundings : Surroundings)
    (previous other : Option Command) :
    noticed (outline.findings surroundings previous) =
      noticed (outline.findings surroundings other) := by
  induction outline generalizing previous other with
  | nil => rfl
  | entry line nested rest _ ih =>
      simp only [findings, noticed_append]
      rw [noticed_lineFindings surroundings previous other,
        ih (line.previous previous) (line.previous other)]

theorem noticed_findings_append (first second : Outline) (surroundings : Surroundings)
    (previous : Option Command) :
    noticed ((first ++ second).findings surroundings previous) =
      noticed (first.findings surroundings previous) ++
        noticed (second.findings surroundings none) := by
  induction first generalizing previous with
  -- The walk comes to `second` with the last command of `first` in hand.
  | nil => exact noticed_findings_previous second surroundings previous none
  | entry line nested rest _ ih =>
      change noticed ((entry line nested (rest ++ second)).findings surroundings previous) = _
      simp only [findings, noticed_append, ih, List.append_assoc]

end Outline

namespace Scene

theorem occurrences_perm (scene : Scene) :
    scene.occurrences.Perm (noticed (scene.outline.findings .outside none)) := by
  have silent : noticed (scene.outline.indentFindings none) = [] := by
    rw [noticed, List.filterMap_eq_nil_iff]
    intro finding isFinding
    exact (silent_indentFindings none scene.outline finding isFinding).1
  have allEq : noticed scene.outline.allFindings =
      noticed (scene.outline.findings .outside none) := by
    rw [Outline.allFindings, noticed_append, silent, List.nil_append]
  rw [scene.occurrences_eq, ← allEq]
  exact List.mergeSort_perm _ _

/-- The occurrences of a scene are in the order of their first bytes. -/
theorem occurrences_ordered (scene : Scene) :
    scene.occurrences.Pairwise fun first second => first.span.start < second.span.start := by
  refine scene.occurrences_pairwise.imp_of_mem ?_
  intro first second isFirst _ before
  exact Nat.lt_of_lt_of_le (span_start_lt_stop isFirst) before.1

theorem span_stop_le {scene : Scene} {occurrence : Occurrence}
    (isOccurrence : occurrence ∈ scene.occurrences) :
    occurrence.span.stop ≤ byteSize scene.source.chars := by
  obtain ⟨line, isLine, _, part, within, _, rfl⟩ := occurrence_on_line isOccurrence
  have bounds := (within.trans (Source.contentLine_within_whole isLine)).bounds
  change part.stop ≤ _
  simpa [Source.whole, Fragment.stop] using bounds.2

/-- Where the outlines follow each other, so do the occurrences: both lists are
in the order of the text, and they have the same members. -/
theorem occurrences_append {whole above below : Scene} {bytes lines : Nat}
    (outlineEq : whole.outline = above.outline ++ below.outline.shift bytes lines)
    (behind : byteSize above.source.chars ≤ bytes) :
    whole.occurrences =
      above.occurrences ++ below.occurrences.map (·.shift bytes lines) := by
  have perm : whole.occurrences.Perm
      (above.occurrences ++ below.occurrences.map (·.shift bytes lines)) := by
    refine whole.occurrences_perm.trans ?_
    rw [outlineEq, Outline.noticed_findings_append, Outline.findings_shift,
      noticed_map_shift]
    exact above.occurrences_perm.symm.append (below.occurrences_perm.symm.map _)
  have ordered : (above.occurrences ++ below.occurrences.map (·.shift bytes lines)).Pairwise
      fun first second => first.span.start < second.span.start := by
    refine List.pairwise_append.2 ⟨above.occurrences_ordered, ?_, ?_⟩
    · refine List.pairwise_map.2 (below.occurrences_ordered.imp ?_)
      intro first second before
      exact Nat.add_lt_add_right before bytes
    · intro first isAbove second isBelow
      obtain ⟨original, _, rfl⟩ := List.mem_map.1 isBelow
      have := span_start_lt_stop isAbove
      have := span_stop_le isAbove
      simp only [Occurrence.shift, Span.shift]
      omega
  refine perm.eq_of_pairwise ?_ whole.occurrences_ordered ordered
  intro first second _ _ before after
  omega

/-- A text whose first line is not indented is read below another text as it is
read alone, whatever is still open above it. -/
theorem parse_below (above below : String)
    (flush : ∀ line ∈ (Source.ofString below).contentLines.head?, line.indent = 0) :
    (parse (above ++ "\n" ++ below)).outline =
        (parse above).outline ++
          (parse below).outline.shift (above.utf8ByteSize + 1) (above.toList.count '\n' + 1) ∧
      (parse (above ++ "\n" ++ below)).occurrences =
        (parse above).occurrences ++
          (parse below).occurrences.map
            (·.shift (above.utf8ByteSize + 1) (above.toList.count '\n' + 1)) := by
  have charsEq : (above ++ "\n" ++ below).toList = above.toList ++ '\n' :: below.toList := by
    simp [String.toList_append]
  have linesEq := Source.contentLines_append above.toList below.toList
  rw [← charsEq, byteSize_toList] at linesEq
  have outlineEq : (parse (above ++ "\n" ++ below)).outline =
      (parse above).outline ++
        (parse below).outline.shift (above.utf8ByteSize + 1) (above.toList.count '\n' + 1) :=
    Source.outline_append linesEq flush
  refine ⟨outlineEq, occurrences_append outlineEq ?_⟩
  rw [← byteSize_toList]
  exact Nat.le_succ _

/-- The choice, its option and the branch above are all still open. -/
theorem parse_below_open_branch :
    (∀ line ∈ (Source.ofString "*set gold 1\r\n  Sum: ${gold}").contentLines.head?,
      line.indent = 0) ∧
      (parse ("*choice\n  #Schlüssel\r\n    *if (known)" ++ "\n" ++
          "*set gold 1\r\n  Sum: ${gold}")).outline =
        (parse "*choice\n  #Schlüssel\r\n    *if (known)").outline ++
          (parse "*set gold 1\r\n  Sum: ${gold}").outline.shift 39 3 ∧
      (parse ("*choice\n  #Schlüssel\r\n    *if (known)" ++ "\n" ++
          "*set gold 1\r\n  Sum: ${gold}")).occurrences =
        (parse "*choice\n  #Schlüssel\r\n    *if (known)").occurrences ++
          (parse "*set gold 1\r\n  Sum: ${gold}").occurrences.map (·.shift 39 3) := by
  have flush : ∀ line ∈ (Source.ofString "*set gold 1\r\n  Sum: ${gold}").contentLines.head?,
      line.indent = 0 := by decide
  exact ⟨flush, parse_below "*choice\n  #Schlüssel\r\n    *if (known)" _ flush⟩

end Scene

end Gamebook
