import Gamebook.Proofs.SourceLines
import Gamebook.Server.OpenDocuments

/-!
# Places of edits

A place of a text is told to editors by the lines of the source, which end at line
feeds, while an edit is applied by lines that end at every break of Unicode.  Before
a place where no other breaks stand than line feeds, with or without a carriage
return, the two divide the text alike: so many whole lines, and a beginning of the
next one.  There an edit meets exactly the characters that it was meant for.
-/

namespace Gamebook

/-- Whether lines end at line feeds only, each perhaps with a carriage return. -/
def hasPlainBreaks : List Char → Bool
  | [] => true
  | '\r' :: '\n' :: rest => hasPlainBreaks rest
  | char :: rest => (char == '\n' || !isLineBreak char) && hasPlainBreaks rest

/-- A text of so many whole lines, all of which end at a line feed. -/
inductive WholeLines : Nat → List Char → Prop where
  | nil : WholeLines 0 []
  | cons {count : Nat} {line ending rest : List Char}
      (unbroken : ∀ char ∈ line, isLineBreak char = false)
      (isEnding : ending = ['\n'] ∨ ending = ['\r', '\n']) (others : WholeLines count rest) :
      WholeLines (count + 1) (line ++ ending ++ rest)

/-- A text with plain breaks is made up of whole lines and the begin of another. -/
theorem exists_wholeLines {text : List Char} (plain : hasPlainBreaks text = true) :
    ∃ count front line, text = front ++ line ∧ WholeLines count front ∧
      ∀ char ∈ line, isLineBreak char = false := by
  fun_induction hasPlainBreaks text with
  | case1 => exact ⟨0, [], [], rfl, .nil, by simp⟩
  | case2 rest ih =>
      obtain ⟨count, front, line, rfl, whole, unbroken⟩ := ih plain
      have added : WholeLines (count + 1) ([] ++ ['\r', '\n'] ++ front) :=
        .cons (by simp) (.inr rfl) whole
      exact ⟨count + 1, '\r' :: '\n' :: front, line, rfl, added, unbroken⟩
  | case3 char rest _ ih =>
      obtain ⟨charPlain, restPlain⟩ := Bool.and_eq_true_iff.1 plain
      obtain ⟨count, front, line, rfl, whole, unbroken⟩ := ih restPlain
      by_cases isFeed : char = '\n'
      · subst isFeed
        have added : WholeLines (count + 1) ([] ++ ['\n'] ++ front) :=
          .cons (by simp) (.inl rfl) whole
        exact ⟨count + 1, '\n' :: front, line, rfl, added, unbroken⟩
      · have notBreak : isLineBreak char = false := by simpa [isFeed] using charPlain
        -- the character begins the first whole line, or the last line if there is none
        cases whole with
        | nil =>
            exact ⟨0, [], char :: line, rfl, .nil, List.forall_mem_cons.2 ⟨notBreak, unbroken⟩⟩
        | @cons others first ending later firstUnbroken isEnding whole =>
            have longer : WholeLines (others + 1) (char :: first ++ ending ++ later) :=
              .cons (List.forall_mem_cons.2 ⟨notBreak, firstUnbroken⟩) isEnding whole
            exact ⟨others + 1, char :: (first ++ ending ++ later), line, rfl, longer, unbroken⟩

/-! ## Lines of the source -/

theorem Fragment.splitOn_append_of_not_border {isBorder : Char → Bool} {line : List Char}
    (noBorder : ∀ char ∈ line, isBorder char = false) (start : Nat) (rest : List Char) :
    ∃ first others,
      splitOn isBorder (start + byteSize line) rest =
        ⟨start + byteSize line, first⟩ :: others ∧
      splitOn isBorder start (line ++ rest) = ⟨start, line ++ first⟩ :: others := by
  induction line generalizing start with
  | nil =>
      obtain ⟨first, others, restEq⟩ := exists_splitOn_eq_cons isBorder start rest
      exact ⟨first, others, restEq, restEq⟩
  | cons char line ih =>
      obtain ⟨charNoBorder, lineNoBorder⟩ := List.forall_mem_cons.1 noBorder
      obtain ⟨first, others, restEq, lineEq⟩ := ih lineNoBorder (start + char.utf8Size)
      refine ⟨first, others, ?_, splitOn_cons_of_not_border charNoBorder lineEq⟩
      rw [byteSize_cons, ← Nat.add_assoc]
      exact restEq

theorem not_lineFeed_of_unbroken {line : List Char}
    (unbroken : ∀ char ∈ line, isLineBreak char = false) :
    ∀ char ∈ line, (char == '\n') = false := by
  intro char inLine
  have notBreak := unbroken char inLine
  simp only [isLineBreak, Bool.or_eq_false_iff] at notBreak
  exact notBreak.1.1.1.1.1.1

theorem WholeLines.linesFrom_append {count : Nat} {front : List Char}
    (whole : WholeLines count front) (start : Nat) (rest : List Char) :
    ∃ earlier, earlier.length = count ∧
      linesFrom start (front ++ rest) =
        earlier ++ linesFrom (start + byteSize front) rest := by
  induction whole generalizing start with
  | nil => exact ⟨[], rfl, by simp⟩
  | @cons count line ending others unbroken isEnding _ ih =>
      -- a carriage return before the line feed belongs to the line
      obtain ⟨content, contentEq, noFeed⟩ : ∃ content, line ++ ending = content ++ ['\n'] ∧
          ∀ char ∈ content, (char == '\n') = false := by
        have lineNoFeed := not_lineFeed_of_unbroken unbroken
        rcases isEnding with rfl | rfl
        · exact ⟨line, rfl, lineNoFeed⟩
        · refine ⟨line ++ ['\r'], by simp, ?_⟩
          intro char inContent
          rcases List.mem_append.1 inContent with inLine | isReturn
          · exact lineNoFeed char inLine
          · rw [List.mem_singleton.1 isReturn]
            decide
      obtain ⟨earlier, lengthEq, laterEq⟩ := ih (start + byteSize (line ++ ending))
      obtain ⟨first, later, feedEq, cutEq⟩ :=
        Fragment.splitOn_append_of_not_border noFeed start ('\n' :: (others ++ rest))
      have feedSize : '\n'.utf8Size = 1 := rfl
      simp only [Fragment.splitOn, beq_self_eq_true, if_true, List.cons.injEq,
        Fragment.mk.injEq, true_and] at feedEq
      obtain ⟨rfl, laterStartEq⟩ := feedEq
      refine ⟨⟨start, content⟩ :: earlier, by rw [List.length_cons, lengthEq], ?_⟩
      calc linesFrom start (line ++ ending ++ others ++ rest)
          = Fragment.splitOn (· == '\n') start (content ++ '\n' :: (others ++ rest)) := by
            rw [contentEq, linesFrom]
            simp
        _ = ⟨start, content⟩ :: linesFrom (start + byteSize (line ++ ending)) (others ++ rest) := by
            rw [cutEq, List.append_nil, ← laterStartEq, linesFrom, contentEq, byteSize_append,
              byteSize_cons, byteSize_nil]
            rfl
        _ = _ := by
            rw [laterEq, List.cons_append, byteSize_append (line ++ ending), Nat.add_assoc]

theorem unitsWithin_byteSize (line rest : List Char) :
    unitsWithin (byteSize line) (line ++ rest) = unitCount line := by
  induction line with
  | nil =>
      cases rest with
      | nil => rfl
      | cons char rest =>
          have positive := char.utf8Size_pos
          have tooLong : ¬ char.utf8Size ≤ 0 := by omega
          simp [unitsWithin, unitCount, tooLong]
  | cons char line ih =>
      have fits : char.utf8Size ≤ byteSize (char :: line) := by
        rw [byteSize_cons]
        omega
      have left : byteSize (char :: line) - char.utf8Size = byteSize line := by
        rw [byteSize_cons]
        omega
      rw [List.cons_append, unitsWithin, if_pos fits, left, ih, unitCount]

/-- Editors are told the number of whole lines before a place, and the units behind them. -/
theorem Source.positionOf_wholeLines {count : Nat} {front line rest : List Char}
    (whole : WholeLines count front)
    (unbroken : ∀ char ∈ line, isLineBreak char = false) :
    (Source.ofChars (front ++ line ++ rest)).positionOf (byteSize (front ++ line)) =
      ⟨count, unitCount line⟩ := by
  obtain ⟨earlier, rfl, linesEq⟩ := whole.linesFrom_append 0 (line ++ rest)
  obtain ⟨first, others, _, lineEq⟩ := Fragment.splitOn_append_of_not_border
    (not_lineFeed_of_unbroken unbroken) (0 + byteSize front) rest
  have linesOf : (ofChars (front ++ line ++ rest)).lines =
      earlier ++ ⟨byteSize front, line ++ first⟩ :: others := by
    rw [(ofChars _).lines_eq, ofChars_chars, List.append_assoc, linesEq, Gamebook.linesFrom,
      lineEq, Nat.zero_add]
  have isLine : (ofChars (front ++ line ++ rest)).lines[earlier.length]? =
      some ⟨byteSize front, line ++ first⟩ := by
    rw [linesOf, List.getElem?_append_right (Nat.le_refl _), Nat.sub_self,
      List.getElem?_cons_zero]
  have isLineOf : (ofChars (front ++ line ++ rest)).lineOf (byteSize (front ++ line)) =
      earlier.length := by
    apply lineOf_eq isLine
    · rw [byteSize_append]
      exact Nat.le_add_right _ _
    · simp only [Fragment.stop, byteSize_append]
      omega
  rw [positionOf]
  simp only [isLineOf, isLine]
  rw [byteSize_append, Nat.add_sub_cancel_left, unitsWithin_byteSize]

/-! ## Lines that edits are applied by -/

theorem brokenLines_ne_nil (text : List Char) : brokenLines text ≠ [] := by
  fun_cases brokenLines text with
  | case1 => simp
  | case2 rest => simp
  | case3 char rest _ _ => simp
  | case4 char rest _ _ => cases brokenLines rest <;> simp [pushChar]

theorem brokenLines_cons_of_not_break {char : Char} (notBreak : isLineBreak char = false)
    (rest : List Char) : brokenLines (char :: rest) = pushChar char (brokenLines rest) := by
  have notReturn : char ≠ '\r' := by
    rintro rfl
    simp [isLineBreak] at notBreak
  rw [brokenLines]
  · simp [notBreak]
  · simp [notReturn]

/-- A line goes on to the next break. -/
theorem brokenLines_append_of_unbroken {line : List Char}
    (unbroken : ∀ char ∈ line, isLineBreak char = false) (rest : List Char) :
    ∃ first others, brokenLines rest = first :: others ∧
      brokenLines (line ++ rest) = (line ++ first) :: others := by
  induction line with
  | nil =>
      obtain ⟨first, others, restEq⟩ := List.exists_cons_of_ne_nil (brokenLines_ne_nil rest)
      exact ⟨first, others, restEq, restEq⟩
  | cons char line ih =>
      obtain ⟨charUnbroken, lineUnbroken⟩ := List.forall_mem_cons.1 unbroken
      obtain ⟨first, others, restEq, lineEq⟩ := ih lineUnbroken
      refine ⟨first, others, restEq, ?_⟩
      rw [List.cons_append, brokenLines_cons_of_not_break charUnbroken, lineEq]
      rfl

theorem WholeLines.brokenLines_append {count : Nat} {front : List Char}
    (whole : WholeLines count front) (rest : List Char) :
    ∃ earlier, earlier.length = count ∧ earlier.flatten = front ∧
      brokenLines (front ++ rest) = earlier ++ brokenLines rest := by
  induction whole with
  | nil => exact ⟨[], rfl, rfl, rfl⟩
  | @cons count line ending others unbroken isEnding _ ih =>
      obtain ⟨earlier, lengthEq, flattenEq, laterEq⟩ := ih
      have endingEq : brokenLines (ending ++ (others ++ rest)) =
          ending :: brokenLines (others ++ rest) := by
        rcases isEnding with rfl | rfl <;> rfl
      obtain ⟨first, later, endEq, lineEq⟩ :=
        brokenLines_append_of_unbroken unbroken (ending ++ (others ++ rest))
      obtain ⟨firstEq, rfl⟩ := List.cons.inj (endEq.symm.trans endingEq)
      rw [firstEq] at lineEq
      refine ⟨(line ++ ending) :: earlier, by rw [List.length_cons, lengthEq], ?_, ?_⟩
      · rw [List.flatten_cons, flattenEq]
      · rw [List.append_assoc, List.append_assoc, lineEq, laterEq]
        rfl

theorem charsWithin_unitCount (line rest : List Char) :
    charsWithin (unitCount line) (line ++ rest) = line.length := by
  induction line with
  | nil =>
      cases rest with
      | nil => rfl
      | cons char rest =>
          have positive := unitSize_pos char
          have tooLong : ¬ unitSize char ≤ 0 := by omega
          simp [charsWithin, unitCount, tooLong]
  | cons char line ih =>
      have fits : unitSize char ≤ unitCount (char :: line) := by
        rw [unitCount]
        omega
      have left : unitCount (char :: line) - unitSize char = unitCount line := by
        rw [unitCount]
        omega
      rw [List.cons_append, charsWithin, if_pos fits, left, ih, List.length_cons]

theorem length_le_of_break_behind {line rest front : List Char}
    (unbroken : ∀ char ∈ line, isLineBreak char = false) {char : Char}
    (isBreak : isLineBreak char = true) (behind : List Char)
    (shape : (line ++ rest).reverse = behind ++ char :: front) :
    line.length ≤ front.reverse.length := by
  have wholeEq : line ++ rest = front.reverse ++ char :: behind.reverse := by
    rw [← List.reverse_reverse (line ++ rest), shape]
    simp
  rcases List.append_eq_append_iff.1 wholeEq with ⟨more, frontEq, _⟩ | ⟨more, lineEq, behindEq⟩
  · rw [frontEq, List.length_append]
    exact Nat.le_add_right _ _
  · cases more with
    | nil =>
        exact Nat.le_of_eq (by rw [lineEq, List.append_nil])
    | cons next more =>
        obtain ⟨rfl, _⟩ := List.cons.inj behindEq
        have notBreak := unbroken char (by simp [lineEq])
        simp [isBreak] at notBreak

/-- Nothing of a line is taken away with its break. -/
theorem length_le_withoutBreak {line : List Char}
    (unbroken : ∀ char ∈ line, isLineBreak char = false) (rest : List Char) :
    line.length ≤ (withoutBreak (line ++ rest)).length := by
  unfold withoutBreak
  split
  · rename_i front shape
    exact length_le_of_break_behind unbroken rfl ['\n'] shape
  · rename_i front _ shape
    exact length_le_of_break_behind unbroken rfl [] shape
  · rename_i front shape
    exact length_le_of_break_behind unbroken rfl [] shape
  · rw [List.length_append]
    exact Nat.le_add_right _ _

theorem charIndex_wholeLines {count : Nat} {front line rest : List Char}
    (whole : WholeLines count front)
    (unbroken : ∀ char ∈ line, isLineBreak char = false) :
    charIndex (front ++ line ++ rest) ⟨count, unitCount line⟩ = (front ++ line).length := by
  obtain ⟨earlier, rfl, rfl, linesEq⟩ := whole.brokenLines_append (line ++ rest)
  obtain ⟨first, others, _, lineEq⟩ := brokenLines_append_of_unbroken unbroken rest
  rw [charIndex, List.append_assoc, linesEq, lineEq]
  simp only [List.getElem?_append_right (Nat.le_refl earlier.length), Nat.sub_self,
    List.getElem?_cons_zero, List.take_left]
  rw [charsWithin_unitCount, Nat.min_eq_left (length_le_withoutBreak unbroken first),
    List.length_append]

/-- The position of a place leads back to the place. -/
theorem charIndex_positionOf {before : List Char} (plain : hasPlainBreaks before = true)
    (after : List Char) :
    charIndex (before ++ after)
      ((Source.ofChars (before ++ after)).positionOf (byteSize before)) = before.length := by
  obtain ⟨count, front, line, rfl, whole, unbroken⟩ := exists_wholeLines plain
  rw [Source.positionOf_wholeLines whole unbroken, charIndex_wholeLines whole unbroken]

/-! ## Edits -/

/-- An edit of the range of a span replaces the characters of the span and no others,
wherever no breaks but line feeds, with or without a carriage return, stand before its
ends. -/
theorem TextChange.apply_rangeOf {before replaced : List Char}
    (startPlain : hasPlainBreaks before = true)
    (stopPlain : hasPlainBreaks (before ++ replaced) = true) (after : List Char)
    (new : String) :
    apply (before ++ replaced ++ after)
      ⟨some ((Source.ofChars (before ++ replaced ++ after)).rangeOf
        ⟨byteSize before, byteSize (before ++ replaced)⟩), new⟩ =
      before ++ new.toList ++ after := by
  have startIndex := charIndex_positionOf startPlain (replaced ++ after)
  have stopIndex := charIndex_positionOf stopPlain after
  rw [← List.append_assoc] at startIndex
  have ordered : max before.length (before ++ replaced).length = (before ++ replaced).length := by
    rw [List.length_append]
    omega
  simp only [apply, Source.rangeOf, startIndex, stopIndex, ordered, List.drop_left]
  rw [List.append_assoc before, List.take_left]

namespace OpenDocuments

theorem change_replaces_span (opened : OpenDocuments) (uri : Uri) (document : Document)
    (isOpen : opened.get? uri = some document) (before replaced after : String)
    (textEq : document.text = before ++ replaced ++ after)
    (startPlain : hasPlainBreaks before.toList = true)
    (stopPlain : hasPlainBreaks (before ++ replaced).toList = true)
    (version : Int) (new : String) :
    let range := document.scene.source.rangeOf
      ⟨before.utf8ByteSize, (before ++ replaced).utf8ByteSize⟩
    ∃ changed, opened.change? uri version [⟨some range, new⟩] =
        some (opened.insert changed, changed) ∧
      changed.text = before ++ new ++ after ∧ changed.version = version := by
  intro range
  refine ⟨changed document version [⟨some range, new⟩], ?_, ?_, rfl⟩
  · rw [change?, isOpen, Option.map_some]
  · have sourceEq : document.scene.source =
        .ofChars (before.toList ++ replaced.toList ++ after.toList) := by
      rw [document.scene_eq, textEq, ← String.toList_append, ← String.toList_append]
      rfl
    have rangeEq : range =
        (Source.ofChars (before.toList ++ replaced.toList ++ after.toList)).rangeOf
          ⟨byteSize before.toList, byteSize (before.toList ++ replaced.toList)⟩ := by
      rw [← sourceEq, ← String.toList_append, byteSize_toList, byteSize_toList]
    rw [String.toList_append] at stopPlain
    have applied := TextChange.apply_rangeOf startPlain stopPlain after.toList new
    rw [← rangeEq] at applied
    calc (changed document version [⟨some range, new⟩]).text
        = String.ofList (TextChange.apply document.text.toList ⟨some range, new⟩) := rfl
      _ = String.ofList (before.toList ++ new.toList ++ after.toList) := by
          rw [textEq, String.toList_append, String.toList_append, applied]
      _ = before ++ new ++ after := by
          rw [String.ofList_append, String.ofList_append]
          simp

/-- The rest of a line behind a character of two units and the begin of the next line are
replaced, with the carriage return and the line feed between them. -/
theorem change_across_lines :
    let document := Document.ofText "file:///game/chapter.txt" 1 "Hi 😀 you\r\nthere."
    let opened := ({} : OpenDocuments).insert document
    let range : Range := ⟨⟨0, 5⟩, ⟨1, 5⟩⟩
    opened.get? document.uri = some document ∧
      document.text = "Hi 😀" ++ " you\r\nthere" ++ "." ∧
      hasPlainBreaks "Hi 😀".toList = true ∧
      hasPlainBreaks ("Hi 😀" ++ " you\r\nthere").toList = true ∧
      document.scene.source.rangeOf ⟨7, 18⟩ = range ∧
      ∃ changed, opened.change? document.uri 2 [⟨some range, "!"⟩] =
          some (opened.insert changed, changed) ∧
        changed.text = "Hi 😀!." ∧ changed.version = 2 := by
  intro document opened range
  have isOpen : opened.get? document.uri = some document := Std.TreeMap.getElem?_insert_self
  have textEq : document.text = "Hi 😀" ++ " you\r\nthere" ++ "." := rfl
  have startPlain : hasPlainBreaks "Hi 😀".toList = true := by decide
  have stopPlain : hasPlainBreaks ("Hi 😀" ++ " you\r\nthere").toList = true := by decide
  have rangeEq : document.scene.source.rangeOf ⟨7, 18⟩ = range := by decide +kernel
  refine ⟨isOpen, textEq, startPlain, stopPlain, rangeEq, ?_⟩
  rw [← rangeEq]
  exact change_replaces_span opened document.uri document isOpen _ _ "." textEq startPlain
    stopPlain 2 "!"

/-- Behind a line separator of Unicode an edit at the end of the text misses it: the
position that the source gives for the end means the begin of the second line. -/
theorem change_misses_behind_separator :
    let document := Document.ofText "file:///game/chapter.txt" 1 "a\u2028b"
    let opened := ({} : OpenDocuments).insert document
    let range := document.scene.source.rangeOf ⟨5, 5⟩
    opened.get? document.uri = some document ∧ document.text.utf8ByteSize = 5 ∧
      (opened.change? document.uri 2 [⟨some range, "!"⟩]).map (·.2.text) = some "a\u2028!b" ∧
      (opened.change? document.uri 2 [⟨some range, "!"⟩]).map (·.2.text) ≠
        some (document.text ++ "!" ++ "") := by
  intro document opened range
  have isOpen : opened.get? document.uri = some document := Std.TreeMap.getElem?_insert_self
  have changedEq : (opened.change? document.uri 2 [⟨some range, "!"⟩]).map (·.2.text) =
      some "a\u2028!b" := by decide +kernel
  refine ⟨isOpen, by decide, changedEq, ?_⟩
  rw [changedEq]
  decide

end OpenDocuments

end Gamebook
