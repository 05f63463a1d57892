import Gamebook.Proofs.FragmentCuts

/-!
# Where the lines of a source stand

The lines of a source follow each other with a line feed between them, so an
offset on a line determines the number of the line.  The lines that are not
blank keep the numbers and the order of the lines they are made from.
-/

namespace Gamebook

theorem byteSize_toList (text : String) : byteSize text.toList = text.utf8ByteSize := by
  suffices ofList : ∀ chars, byteSize chars = (String.ofList chars).utf8ByteSize by
    simpa using ofList text.toList
  intro chars
  induction chars with
  | nil => rfl
  | cons char rest ih =>
      rw [← List.singleton_append, String.ofList_append, String.utf8ByteSize_append,
        ← String.singleton_eq_ofList, String.utf8ByteSize_singleton, ← ih]
      rfl

namespace Source

variable {source : Source} {number offset : Nat} {line : Fragment}

/-- Between two lines stands a line feed. -/
theorem lines_pairwise (source : Source) :
    source.lines.Pairwise fun first second => first.stop < second.start := by
  rw [source.lines_eq]
  exact Fragment.splitOn_pairwise _ _ _

theorem within_of_mem_lines (isLine : line ∈ source.lines) :
    line.Within source.whole := by
  rw [source.lines_eq] at isLine
  exact Fragment.within_of_mem_splitOn isLine

theorem not_lineFeed_of_mem_lines (isLine : line ∈ source.lines) :
    '\n' ∉ line.chars := by
  intro inLine
  rw [source.lines_eq] at isLine
  have := Fragment.not_border_of_mem_splitOn isLine inLine
  simp at this

theorem content_within (line : Fragment) : (content line).Within line := by
  unfold content
  split
  · rename_i endsWithReturn
    obtain ⟨front, charsEq⟩ := List.getLast?_eq_some_iff.1 endsWithReturn
    exact ⟨[], ['\r'], by simp [charsEq], by simp⟩
  · exact Fragment.Within.refl line

theorem length_takeWhile_start_le {lines : List Fragment}
    (ordered : lines.Pairwise fun first second => first.stop < second.start)
    (isLine : lines[number]? = some line) (lower : line.start ≤ offset)
    (upper : offset ≤ line.stop) :
    (lines.takeWhile (·.start ≤ offset)).length = number + 1 := by
  induction lines generalizing number with
  | nil => simp at isLine
  | cons head rest ih =>
      obtain ⟨headBefore, restOrdered⟩ := List.pairwise_cons.1 ordered
      cases number with
      | zero =>
          obtain rfl : head = line := by simpa using isLine
          have noneLater : rest.takeWhile (·.start ≤ offset) = [] := by
            cases rest with
            | nil => rfl
            | cons next others =>
                have gap := headBefore next List.mem_cons_self
                have startsLater : ¬ next.start ≤ offset := by omega
                simp [startsLater]
          simp [lower, noneLater]
      | succ number =>
          have isLater : rest[number]? = some line := by simpa using isLine
          have gap := headBefore line (List.mem_of_getElem? isLater)
          have headStarts : head.start ≤ offset := by
            have := head.start_le_stop
            omega
          simp [headStarts, ih restOrdered isLater]

/-- An offset on a line belongs to that line. -/
theorem lineOf_eq (isLine : source.lines[number]? = some line)
    (lower : line.start ≤ offset) (upper : offset ≤ line.stop) :
    source.lineOf offset = number := by
  rw [lineOf, length_takeWhile_start_le source.lines_pairwise isLine lower upper]
  rfl

end Source

/-- A line is made from its text: what is left of the text without indentation
and trailing blanks decides the kind. -/
theorem Line.ofFragment?_spec {number : Nat} {text : Fragment} {line : Line}
    (isLine : Line.ofFragment? number text = some line) :
    line.number = number ∧ line.content.Within text ∧
      line.content.chars ≠ [] ∧ line.kind = .ofContent line.content := by
  simp only [Line.ofFragment?] at isLine
  split at isLine
  · simp at isLine
  · rename_i notEmpty
    simp only [Option.some.injEq] at isLine
    subst isLine
    refine ⟨rfl, ?_, ?_, rfl⟩
    · exact (Fragment.trimEnd_within _).trans (Fragment.dropWhile_within _ _)
    · simpa [Fragment.isEmpty] using notEmpty

/-- The second line comes later, and the contents of the two do not touch. -/
def Line.Before (first second : Line) : Prop :=
  first.number < second.number ∧ first.content.stop < second.content.start

namespace Source

theorem linesFrom_eq_filterMap (number : Nat) (texts : List Fragment) :
    Source.linesFrom number texts =
      (texts.zipIdx number).filterMap fun numbered =>
        Line.ofFragment? numbered.2 (content numbered.1) := by
  induction texts generalizing number with
  | nil => rfl
  | cons text rest ih =>
      rw [Source.linesFrom, List.zipIdx_cons, List.filterMap_cons, ← ih]
      cases Line.ofFragment? number (content text) <;> rfl

theorem contentLines_eq_filterMap (source : Source) :
    source.contentLines =
      source.lines.zipIdx.filterMap fun numbered =>
        Line.ofFragment? numbered.2 (content numbered.1) :=
  linesFrom_eq_filterMap 0 source.lines

theorem exists_text_of_mem_contentLines {source : Source} {line : Line}
    (isLine : line ∈ source.contentLines) :
    ∃ text, source.lines[line.number]? = some text ∧
      Line.ofFragment? line.number (content text) = some line := by
  rw [contentLines_eq_filterMap] at isLine
  obtain ⟨⟨text, number⟩, isText, lineEq⟩ := List.mem_filterMap.1 isLine
  obtain ⟨rfl, _⟩ := Line.ofFragment?_spec lineEq
  exact ⟨text, List.mem_zipIdx_iff_getElem?.1 isText, lineEq⟩

theorem contentLine_within_whole {source : Source} {line : Line}
    (isLine : line ∈ source.contentLines) :
    line.content.Within source.whole := by
  obtain ⟨text, isText, lineEq⟩ := exists_text_of_mem_contentLines isLine
  obtain ⟨_, contentWithin, _⟩ := Line.ofFragment?_spec lineEq
  exact (contentWithin.trans (content_within text)).trans
    (within_of_mem_lines (List.mem_of_getElem? isText))

/-- An offset in the content of a line belongs to that line. -/
theorem lineOf_eq_number {source : Source} {line : Line} {offset : Nat}
    (isLine : line ∈ source.contentLines) (lower : line.content.start ≤ offset)
    (upper : offset ≤ line.content.stop) :
    source.lineOf offset = line.number := by
  obtain ⟨text, isText, lineEq⟩ := exists_text_of_mem_contentLines isLine
  obtain ⟨_, contentWithin, _⟩ := Line.ofFragment?_spec lineEq
  have bounds := (contentWithin.trans (content_within text)).bounds
  exact lineOf_eq isText (by omega) (by omega)

theorem linesFrom_pairwise {texts : List Fragment} (number : Nat)
    (ordered : texts.Pairwise fun first second => first.stop < second.start) :
    (Source.linesFrom number texts).Pairwise Line.Before := by
  induction texts generalizing number with
  | nil => exact List.Pairwise.nil
  | cons text rest ih =>
      obtain ⟨textBefore, restOrdered⟩ := List.pairwise_cons.1 ordered
      rw [Source.linesFrom]
      split
      · rename_i line lineEq
        rw [List.pairwise_cons]
        refine ⟨?_, ih (number + 1) restOrdered⟩
        intro other isLater
        rw [linesFrom_eq_filterMap] at isLater
        obtain ⟨⟨otherText, otherNumber⟩, isText, otherEq⟩ :=
          List.mem_filterMap.1 isLater
        obtain ⟨numberEq, within, _⟩ := Line.ofFragment?_spec lineEq
        obtain ⟨otherNumberEq, otherWithin, _⟩ := Line.ofFragment?_spec otherEq
        have gap := textBefore otherText (List.fst_mem_of_mem_zipIdx isText)
        have bounds := (within.trans (content_within text)).bounds
        have otherBounds := (otherWithin.trans (content_within otherText)).bounds
        have later := List.le_snd_of_mem_zipIdx isText
        simp only at otherNumberEq otherBounds later
        constructor <;> omega
      · exact ih (number + 1) restOrdered

theorem contentLines_pairwise (source : Source) :
    source.contentLines.Pairwise Line.Before :=
  linesFrom_pairwise 0 source.lines_pairwise

end Source

end Gamebook
