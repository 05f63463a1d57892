import Gamebook.Proofs.EditPlaces

/-!
# Positions and back

A place between two characters of a source is told as a byte offset or as a line and
a UTF-16 column.  Every place is on exactly one line, in front of a part of it, and its
column is what that part takes.  So positions are in the order of offsets, and the
position of a place leads back to it, but for a place behind the carriage return that
ends a line: columns go no further than the content of a line.  A column that falls
inside a character or past the end is moved to the next place of the line.
-/

namespace Gamebook

/-- The order of positions: by line, and on one line by column. -/
def Position.Before (first second : Position) : Prop :=
  first.line < second.line ∨ first.line = second.line ∧ first.column < second.column

/-- Whether a text is cut right behind a carriage return that ends a line. -/
def isBehindReturn (before after : List Char) : Bool :=
  before.getLast? == some '\r' && (after.isEmpty || after.head? == some '\n')

/-! ## Columns of a text -/

theorem beforeColumn_unitCount (left right : List Char) :
    beforeColumn (unitCount left) (left ++ right) = left := by
  induction left with
  | nil => simp [unitCount, beforeColumn]
  | cons char left ih =>
      have positive := unitSize_pos char
      obtain ⟨column, columnEq⟩ : ∃ column, unitCount (char :: left) = column + 1 :=
        ⟨unitCount (char :: left) - 1, by rw [unitCount]; omega⟩
      have rest : column + 1 - unitSize char = unitCount left := by
        rw [← columnEq, unitCount]
        omega
      rw [columnEq, List.cons_append, beforeColumn, rest, ih]

theorem beforeColumn_of_unitCount_le {column : Nat} {text : List Char}
    (short : unitCount text ≤ column) : beforeColumn column text = text := by
  fun_induction beforeColumn column text with
  | case1 text =>
      cases text with
      | nil => rfl
      | cons char rest =>
          have positive := unitSize_pos char
          rw [unitCount] at short
          omega
  | case2 column => rfl
  | case3 column char rest ih =>
      rw [unitCount] at short
      rw [ih (by omega)]

/-- `result` is the least column of a place of the text that is not before `column`,
where a column past the end counts as the end. -/
structure RoundsUp (text : List Char) (column result : Nat) : Prop where
  isColumn : ∃ before after, text = before ++ after ∧ unitCount before = result
  reaches : min column (unitCount text) ≤ result
  least : ∀ before after, text = before ++ after →
    min column (unitCount text) ≤ unitCount before → result ≤ unitCount before

theorem roundsUp_beforeColumn (column : Nat) (text : List Char) :
    RoundsUp text column (unitCount (beforeColumn column text)) := by
  refine ⟨⟨_, _, (beforeColumn_append_afterColumn column text).symm, rfl⟩, ?_, ?_⟩
  · fun_induction beforeColumn column text with
    | case1 text => simp
    | case2 column => simp [unitCount]
    | case3 column char rest ih =>
        simp only [unitCount]
        omega
  · fun_induction beforeColumn column text with
    | case1 text => simp [unitCount]
    | case2 column => simp [unitCount]
    | case3 column char rest ih =>
        intro before after textEq reaches
        have positive := unitSize_pos char
        cases before with
        | nil =>
            simp only [unitCount] at reaches
            omega
        | cons first before =>
            obtain ⟨rfl, restEq⟩ := List.cons.inj textEq
            simp only [unitCount] at reaches ⊢
            have := ih before after restEq (by omega)
            omega

theorem unitCount_pos {text : List Char} (notEmpty : text ≠ []) : 0 < unitCount text := by
  cases text with
  | nil => exact absurd rfl notEmpty
  | cons char rest =>
      have := unitSize_pos char
      rw [unitCount]
      omega

theorem unitCount_lt_of_byteSize_lt {first second firstRest secondRest : List Char}
    (sameText : first ++ firstRest = second ++ secondRest)
    (isLess : byteSize first < byteSize second) : unitCount first < unitCount second := by
  rcases List.append_eq_append_iff.1 sameText with ⟨more, rfl, _⟩ | ⟨more, rfl, _⟩
  · have notEmpty : more ≠ [] := by
      rintro rfl
      simp at isLess
    have := unitCount_pos notEmpty
    rw [unitCount_append]
    omega
  · rw [byteSize_append] at isLess
    omega

/-! ## The line of a place -/

theorem Fragment.splitOn_append_border {isBorder : Char → Bool} {border : Char}
    (borders : isBorder border = true) (start : Nat) (front rest : List Char) :
    splitOn isBorder start (front ++ border :: rest) =
      splitOn isBorder start front ++
        splitOn isBorder (start + byteSize (front ++ [border])) rest := by
  induction front generalizing start with
  | nil => simp [splitOn, borders]
  | cons char front ih =>
      have later := ih (start + char.utf8Size)
      rw [Nat.add_assoc, ← byteSize_cons, ← List.cons_append] at later
      by_cases charBorders : isBorder char = true
      · simp only [List.cons_append, splitOn, charBorders, if_true] at later ⊢
        rw [later]
      · have notBorder : isBorder char = false := by simpa using charBorders
        obtain ⟨first, others, frontEq⟩ :=
          exists_splitOn_eq_cons isBorder (start + char.utf8Size) front
        rw [frontEq, List.cons_append] at later
        rw [List.cons_append, splitOn_cons_of_not_border notBorder later,
          splitOn_cons_of_not_border notBorder frontEq]
        rfl

/-- A text goes on to the next line feed. -/
theorem exists_rest_of_line (text : List Char) :
    ∃ line later, text = line ++ later ∧ (∀ char ∈ line, (char == '\n') = false) ∧
      (later = [] ∨ later.head? = some '\n') := by
  by_cases hasFeed : '\n' ∈ text
  · obtain ⟨line, later, textEq, noFeed⟩ := List.eq_append_cons_of_mem hasFeed
    refine ⟨line, '\n' :: later, textEq, ?_, .inr rfl⟩
    intro char inLine
    exact beq_eq_false_iff_ne.2 fun isFeed => noFeed (isFeed ▸ inLine)
  · refine ⟨text, [], by simp, ?_, .inl rfl⟩
    intro char inText
    exact beq_eq_false_iff_ne.2 fun isFeed => hasFeed (isFeed ▸ inText)

/-- A text ends with what follows its last line feed. -/
theorem exists_begin_of_line (text : List Char) :
    ∃ front line, text = front ++ line ∧ (∀ char ∈ line, (char == '\n') = false) ∧
      (front = [] ∨ ∃ earlier, front = earlier ++ ['\n']) := by
  obtain ⟨line, later, textEq, noFeed, laterHead⟩ := exists_rest_of_line text.reverse
  refine ⟨later.reverse, line.reverse, ?_, by simpa using noFeed, ?_⟩
  · rw [← List.reverse_append, ← textEq, List.reverse_reverse]
  · rcases laterHead with rfl | isFeed
    · exact .inl rfl
    · obtain ⟨rest, rfl⟩ := List.head?_eq_some_iff.1 isFeed
      exact .inr ⟨rest.reverse, by simp⟩

theorem linesFrom_of_line {line later : List Char}
    (noFeed : ∀ char ∈ line, (char == '\n') = false)
    (laterHead : later = [] ∨ later.head? = some '\n') (start : Nat) :
    ∃ others, linesFrom start (line ++ later) = ⟨start, line⟩ :: others := by
  obtain ⟨first, others, laterEq, lineEq⟩ :=
    Fragment.splitOn_append_of_not_border noFeed start later
  have firstNil : first = [] := by
    rcases laterHead with rfl | isFeed
    · simp only [Fragment.splitOn, List.cons.injEq, Fragment.mk.injEq] at laterEq
      exact laterEq.1.2.symm
    · obtain ⟨rest, rfl⟩ := List.head?_eq_some_iff.1 isFeed
      simp only [Fragment.splitOn, beq_self_eq_true, if_true, List.cons.injEq,
        Fragment.mk.injEq] at laterEq
      exact laterEq.1.2.symm
  refine ⟨others, ?_⟩
  rw [linesFrom, lineEq, firstNil, List.append_nil]

theorem linesFrom_of_begin {front : List Char}
    (atBegin : front = [] ∨ ∃ earlier, front = earlier ++ ['\n']) (rest : List Char) :
    ∃ earlier, linesFrom 0 (front ++ rest) = earlier ++ linesFrom (byteSize front) rest := by
  rcases atBegin with rfl | ⟨earlier, rfl⟩
  · exact ⟨[], rfl⟩
  · refine ⟨linesFrom 0 earlier, ?_⟩
    rw [List.append_assoc, List.singleton_append, linesFrom,
      Fragment.splitOn_append_border (by decide), Nat.zero_add]
    rfl

theorem isBehindReturn_iff {front left right later : List Char}
    (atBegin : front = [] ∨ ∃ earlier, front = earlier ++ ['\n'])
    (noFeed : ∀ char ∈ right, (char == '\n') = false)
    (laterHead : later = [] ∨ later.head? = some '\n') :
    isBehindReturn (front ++ left) (right ++ later) = true ↔
      left.getLast? = some '\r' ∧ right = [] := by
  have lastEq : (front ++ left).getLast? = some '\r' ↔ left.getLast? = some '\r' := by
    rw [List.getLast?_append]
    cases left.getLast? with
    | some char => simp
    | none => rcases atBegin with rfl | ⟨earlier, rfl⟩ <;> simp
  have endsEq : ((right ++ later).isEmpty || (right ++ later).head? == some '\n') = true ↔
      right = [] := by
    cases right with
    | nil => simpa using laterHead
    | cons char right => simpa using noFeed char List.mem_cons_self
  rw [isBehindReturn, Bool.and_eq_true, endsEq, beq_iff_eq, lastEq]

namespace Source

variable {source : Source} {before after left right : List Char} {number start : Nat}

theorem exists_line_of_cut (charsEq : source.chars = before ++ after) :
    ∃ (number start : Nat) (left right : List Char),
      source.lines[number]? = some ⟨start, left ++ right⟩ ∧
      byteSize before = start + byteSize left ∧
      (isBehindReturn before after = true ↔ left.getLast? = some '\r' ∧ right = []) := by
  obtain ⟨front, left, rfl, leftNoFeed, atBegin⟩ := exists_begin_of_line before
  obtain ⟨right, later, rfl, rightNoFeed, laterHead⟩ := exists_rest_of_line after
  have noFeed : ∀ char ∈ left ++ right, (char == '\n') = false := by
    intro char inLine
    rcases List.mem_append.1 inLine with inLeft | inRight
    · exact leftNoFeed char inLeft
    · exact rightNoFeed char inRight
  obtain ⟨earlier, earlierEq⟩ := linesFrom_of_begin atBegin (left ++ right ++ later)
  obtain ⟨others, lineEq⟩ := linesFrom_of_line noFeed laterHead (byteSize front)
  refine ⟨earlier.length, byteSize front, left, right, ?_, byteSize_append _ _,
    isBehindReturn_iff atBegin rightNoFeed laterHead⟩
  have linesEq : source.lines = earlier ++ ⟨byteSize front, left ++ right⟩ :: others := by
    rw [source.lines_eq, charsEq, ← lineEq, ← earlierEq]
    simp
  rw [linesEq, List.getElem?_append_right (Nat.le_refl _), Nat.sub_self,
    List.getElem?_cons_zero]

/-- The position of a place is its line and the units before it there. -/
theorem positionOf_of_line (isLine : source.lines[number]? = some ⟨start, left ++ right⟩) :
    source.positionOf (start + byteSize left) = ⟨number, unitCount left⟩ := by
  have isLineOf : source.lineOf (start + byteSize left) = number := by
    apply lineOf_eq isLine
    · exact Nat.le_add_right _ _
    · simp only [Fragment.stop, byteSize_append]
      omega
  rw [positionOf]
  simp only [isLineOf, isLine]
  rw [Nat.add_sub_cancel_left, unitsWithin_byteSize]

theorem content_append (notEmpty : right ≠ []) (start : Nat) (left : List Char) :
    ∃ kept, content ⟨start, left ++ right⟩ = ⟨start, left ++ kept⟩ := by
  unfold content
  split
  · exact ⟨right.dropLast, by rw [List.dropLast_append_of_ne_nil notEmpty]⟩
  · exact ⟨right, rfl⟩

/-- A position leads back to its place, but not behind the carriage return that ends a
line. -/
theorem offsetOf?_of_line (isLine : source.lines[number]? = some ⟨start, left ++ right⟩) :
    source.offsetOf? ⟨number, unitCount left⟩ =
      some (if left.getLast? = some '\r' ∧ right = [] then start + byteSize left - 1
        else start + byteSize left) := by
  rw [offsetOf?, line?, isLine]
  simp only [Option.map_some, Option.some.injEq]
  by_cases atEnd : right = []
  · subst atEnd
    rw [List.append_nil, content]
    by_cases hasReturn : left.getLast? = some '\r'
    · obtain ⟨front, rfl⟩ := List.getLast?_eq_some_iff.1 hasReturn
      have whole : beforeColumn (unitCount front + unitCount ['\r']) front = front :=
        beforeColumn_of_unitCount_le (Nat.le_add_right _ _)
      have returnSize : '\r'.utf8Size = 1 := rfl
      simp [whole, returnSize]
    · have whole := beforeColumn_unitCount left []
      rw [List.append_nil] at whole
      simp [hasReturn, whole]
  · obtain ⟨kept, contentEq⟩ := content_append atEnd start left
    simp [contentEq, atEnd, beforeColumn_unitCount]

/-! ## Positions of a source -/

theorem offsetOf?_positionOf (charsEq : source.chars = before ++ after) :
    source.offsetOf? (source.positionOf (byteSize before)) =
      some (if isBehindReturn before after then byteSize before - 1 else byteSize before) := by
  obtain ⟨number, start, left, right, isLine, sizeEq, behind⟩ := exists_line_of_cut charsEq
  rw [sizeEq, positionOf_of_line isLine, offsetOf?_of_line isLine]
  simp only [behind]

theorem positionOf_before {between : List Char}
    (charsEq : source.chars = before ++ between ++ after) (notEmpty : between ≠ []) :
    (source.positionOf (byteSize before)).Before
      (source.positionOf (byteSize (before ++ between))) := by
  obtain ⟨first, firstStart, firstLeft, firstRight, isFirst, firstEq, _⟩ :=
    exists_line_of_cut (charsEq.trans (List.append_assoc _ _ _))
  obtain ⟨second, secondStart, secondLeft, secondRight, isSecond, secondEq, _⟩ :=
    exists_line_of_cut charsEq
  have isLess : byteSize before < byteSize (before ++ between) := by
    have := byteSize_pos notEmpty
    rw [byteSize_append]
    omega
  rw [firstEq, secondEq] at isLess
  rw [firstEq, secondEq, positionOf_of_line isFirst, positionOf_of_line isSecond]
  rcases Nat.lt_trichotomy first second with earlier | rfl | later
  · exact .inl earlier
  · rw [isFirst, Option.some.injEq, Fragment.mk.injEq] at isSecond
    obtain ⟨rfl, sameLine⟩ := isSecond
    exact .inr ⟨rfl, unitCount_lt_of_byteSize_lt sameLine (by omega)⟩
  · -- the first place would be on a line behind the second
    obtain ⟨firstInside, firstAt⟩ := List.getElem?_eq_some_iff.1 isFirst
    obtain ⟨secondInside, secondAt⟩ := List.getElem?_eq_some_iff.1 isSecond
    have gap := List.pairwise_iff_getElem.1 source.lines_pairwise second first secondInside
      firstInside later
    rw [firstAt, secondAt] at gap
    simp only [Fragment.stop, byteSize_append] at gap
    omega

theorem exists_ending (line : Fragment) :
    ∃ ending, line = ⟨(content line).start, (content line).chars ++ ending⟩ := by
  unfold content
  split
  · rename_i hasReturn
    obtain ⟨front, charsEq⟩ := List.getLast?_eq_some_iff.1 hasReturn
    exact ⟨['\r'], by rw [charsEq, List.dropLast_concat, ← charsEq]⟩
  · exact ⟨[], by rw [List.append_nil]⟩

/-- A position leads to the next place of its line. -/
theorem offsetOf?_roundsUp (inside : number < source.lineCount) (column : Nat) :
    ∃ content left right result, source.line? number = some content ∧
      content.chars = left ++ right ∧
      source.offsetOf? ⟨number, column⟩ = some (content.start + byteSize left) ∧
      source.positionOf (content.start + byteSize left) = ⟨number, result⟩ ∧
      RoundsUp content.chars column result := by
  obtain ⟨line, isLine⟩ : ∃ line, source.lines[number]? = some line :=
    ⟨_, List.getElem?_eq_getElem inside⟩
  have contentEq : source.line? number = some (content line) := by
    rw [line?, isLine, Option.map_some]
  obtain ⟨ending, lineEq⟩ := exists_ending line
  have cutEq := beforeColumn_append_afterColumn column (content line).chars
  refine ⟨content line, beforeColumn column (content line).chars,
    afterColumn column (content line).chars, _, contentEq, cutEq.symm, ?_, ?_,
    roundsUp_beforeColumn column (content line).chars⟩
  · rw [offsetOf?, contentEq, Option.map_some]
  · rw [lineEq, ← cutEq, List.append_assoc] at isLine
    exact positionOf_of_line isLine

end Source

/-! ## Sizes of positions -/

theorem unitSize_le_utf8Size (char : Char) : unitSize char ≤ char.utf8Size := by
  have positive := char.utf8Size_pos
  unfold unitSize
  split
  · exact positive
  · rename_i large
    simp only [Char.utf8Size]
    split
    · rename_i isAscii
      have small := UInt32.le_iff_toNat_le.1 isAscii
      simp only [Char.toNat] at large
      simp only [UInt32.toNat_ofNatLT] at small
      omega
    · split
      · decide
      · split <;> decide

theorem unitsWithin_le_byteSize (budget : Nat) (text : List Char) :
    unitsWithin budget text ≤ byteSize text := by
  fun_induction unitsWithin budget text with
  | case1 budget => exact Nat.zero_le _
  | case2 budget char rest fits ih =>
      have := unitSize_le_utf8Size char
      rw [byteSize_cons]
      omega
  | case3 budget char rest long => exact Nat.zero_le _

theorem length_splitOn_le (isBorder : Char → Bool) (start : Nat) (text : List Char) :
    (Fragment.splitOn isBorder start text).length ≤ byteSize text + 1 := by
  induction text generalizing start with
  | nil => simp [Fragment.splitOn]
  | cons char rest ih =>
      have positive := char.utf8Size_pos
      have later := ih (start + char.utf8Size)
      by_cases border : isBorder char = true
      · simp only [Fragment.splitOn, border, if_true, List.length_cons, byteSize_cons]
        omega
      · obtain ⟨first, others, restEq⟩ :=
          Fragment.exists_splitOn_eq_cons isBorder (start + char.utf8Size) rest
        rw [restEq, List.length_cons] at later
        rw [Fragment.splitOn_cons_of_not_border (by simpa using border) restEq,
          List.length_cons, byteSize_cons]
        omega

namespace Source

/-- The numbers of a position are no greater than the text. -/
theorem positionOf_le (source : Source) (offset : Nat) :
    (source.positionOf offset).line ≤ byteSize source.chars ∧
      (source.positionOf offset).column ≤ byteSize source.chars := by
  have lineLe : source.lineOf offset ≤ byteSize source.chars := by
    have taken := (List.takeWhile_sublist (·.start ≤ offset) (l := source.lines)).length_le
    have total := length_splitOn_le (· == '\n') 0 source.chars
    rw [← Gamebook.linesFrom, ← source.lines_eq] at total
    rw [lineOf]
    omega
  unfold positionOf
  simp only
  split
  · rename_i line isLine
    refine ⟨lineLe, ?_⟩
    have units := unitsWithin_le_byteSize (offset - line.start) line.chars
    have bounds := (within_of_mem_lines (List.mem_of_getElem? isLine)).bounds
    simp only [Fragment.stop, whole] at bounds
    simp only
    omega
  · exact ⟨lineLe, Nat.zero_le _⟩

/-- Positions and offsets of a source: a position leads back to the place it was taken
at, or to the place before the carriage return that ends the line; later places have
later positions; a column of an existing line leads to the next place of the line's
content; and in a source whose bytes 32 bits can count, they can count lines and columns
as well. -/
theorem positions_round_trip (source : Source) :
    (∀ before after, source.chars = before ++ after →
      source.offsetOf? (source.positionOf (byteSize before)) =
        some (if isBehindReturn before after then byteSize before - 1
          else byteSize before)) ∧
    (∀ before between after, source.chars = before ++ between ++ after → between ≠ [] →
      (source.positionOf (byteSize before)).Before
        (source.positionOf (byteSize (before ++ between)))) ∧
    (∀ number column, number < source.lineCount →
      ∃ content left right result, source.line? number = some content ∧
        content.chars = left ++ right ∧
        source.offsetOf? ⟨number, column⟩ = some (content.start + byteSize left) ∧
        source.positionOf (content.start + byteSize left) = ⟨number, result⟩ ∧
        RoundsUp content.chars column result) ∧
    (byteSize source.chars ≤ unsignedLimit → ∀ offset,
      (source.positionOf offset).line ≤ unsignedLimit ∧
        (source.positionOf offset).column ≤ unsignedLimit) := by
  refine ⟨?_, ?_, ?_, ?_⟩
  · intro before after charsEq
    exact offsetOf?_positionOf charsEq
  · intro before between after charsEq notEmpty
    exact positionOf_before charsEq notEmpty
  · intro number column inside
    exact offsetOf?_roundsUp inside column
  · intro small offset
    have sizes := source.positionOf_le offset
    exact ⟨Nat.le_trans sizes.1 small, Nat.le_trans sizes.2 small⟩

/-- A line with a character of two units that ends in a carriage return: behind the return
the way back stops before it, the place before it comes earlier, and a column inside the
character leads behind the character. -/
theorem positions_round_trip_of_return :
    let source := Source.ofString "é😀\r\nx"
    source.chars = "é😀\r".toList ++ "\nx".toList ∧
      source.offsetOf? (source.positionOf 7) = some 6 ∧
      source.chars = "é😀".toList ++ "\r".toList ++ "\nx".toList ∧
      (source.positionOf 6).Before (source.positionOf 7) ∧
      0 < source.lineCount ∧ source.offsetOf? ⟨0, 2⟩ = some 6 ∧ RoundsUp "é😀".toList 2 3 ∧
      byteSize source.chars ≤ unsignedLimit ∧ (source.positionOf 7).column ≤ unsignedLimit := by
  intro source
  obtain ⟨back, ordered, rounds, fits⟩ := positions_round_trip source
  have behindReturn := back "é😀\r".toList "\nx".toList (by decide)
  have earlier := ordered "é😀".toList "\r".toList "\nx".toList (by decide) (by decide)
  obtain ⟨content, left, right, result, contentEq, _, offsetEq, positionEq, roundsUp⟩ :=
    rounds 0 2 (by decide)
  have contentIs : source.line? 0 = some ⟨0, "é😀".toList⟩ := by decide
  have offsetIs : source.offsetOf? ⟨0, 2⟩ = some 6 := by decide
  have positionIs : source.positionOf 6 = ⟨0, 3⟩ := by decide
  obtain rfl := Option.some.inj (contentEq.symm.trans contentIs)
  rw [Option.some.inj (offsetEq.symm.trans offsetIs), positionIs] at positionEq
  obtain rfl := (Position.mk.inj positionEq).2
  exact ⟨by decide, behindReturn, by decide, earlier, by decide, offsetIs, roundsUp, by decide,
    (fits (by decide) 7).2⟩

end Source

end Gamebook
