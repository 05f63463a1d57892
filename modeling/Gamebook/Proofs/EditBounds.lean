import Gamebook.Proofs.SessionTables

/-!
# Edits stay inside the text

An edit finds its places line by line: it counts units of a line, takes the break off its
end, and goes to where the line starts.  Here these steps are also taken with care, so that
one that would leave the line or the text has no answer.  None ever does: whatever the
position is, the careful steps lead to the place that an edit uses.  Places are in the order
of their positions, and none of them is inside the break of a carriage return and a line feed.
-/

namespace Gamebook

/-! ## Careful steps -/

/-- The number of characters that fit into a number of units, which the line must have. -/
def charsWithin? (units : Nat) (line : List Char) : Option Nat :=
  if units ≤ unitCount line then some (charsWithin units line) else none

/-- What is left of a number, which must not be the smaller one. -/
def difference? (whole part : Nat) : Option Nat :=
  if part ≤ whole then some (whole - part) else none

/-- The length of the break of a line that ends with one. -/
def breakLength? (ended : List Char) : Option Nat :=
  if 2 ≤ ended.length then
    ended[ended.length - 2]?.map fun char => if char = '\r' then 2 else 1
  else
    some 1

/-- The index of a line up to which columns go. -/
def columnLimit? (line : List Char) : Option Nat :=
  if line.getLast? = some '\n' ∨ line.getLast? = some '\r' then
    (breakLength? line).bind (difference? line.length)
  else
    some line.length

/-- The index at which a line starts, or the length of the text behind the last line. -/
def lineStart (text : List Char) (line : Nat) : Nat :=
  ((brokenLines text).take line).flatten.length

def lineStart? (text : List Char) (line : Nat) : Option Nat :=
  if line ≤ (brokenLines text).length then some (lineStart text line) else none

/-- The index of the character at a position, when no step leaves the text. -/
def charIndex? (text : List Char) (position : Position) : Option Nat :=
  if (brokenLines text).length ≤ position.line then
    some text.length
  else do
    let line ← (brokenLines text)[position.line]?
    let column ← charsWithin? (min position.column (unitCount line)) line
    let limit ← columnLimit? line
    let start ← lineStart? text position.line
    some (start + min column limit)

/-- The text without what stands between two of its indices. -/
def removeBetween? (text : List Char) (start stop : Nat) : Option (List Char) :=
  if start ≤ stop ∧ stop ≤ text.length then some (text.take start ++ text.drop stop) else none

/-- The text with more at one of its indices. -/
def insertAt? (text : List Char) (index : Nat) (new : List Char) : Option (List Char) :=
  if index ≤ text.length then some (text.take index ++ new ++ text.drop index) else none

/-- The text after a change, when no step leaves the text. -/
def TextChange.replaced? (text : List Char) (change : TextChange) : Option (List Char) :=
  match change.range with
  | none => some change.text.toList
  | some range => do
      let start ← charIndex? text range.start
      let stop ← charIndex? text range.stop
      let left ← removeBetween? text start (max start stop)
      insertAt? left start change.text.toList

/-! ## Units of a line -/

section Units

variable {units more : Nat} {line : List Char}

theorem charsWithin_mono (le : units ≤ more) : charsWithin units line ≤ charsWithin more line := by
  induction line generalizing units more with
  | nil => exact Nat.le_refl 0
  | cons char rest ih =>
      rw [charsWithin, charsWithin]
      split
      · rw [if_pos (by omega)]
        exact Nat.succ_le_succ (ih (by omega))
      · exact Nat.zero_le _

theorem charsWithin_min_unitCount (units : Nat) (line : List Char) :
    charsWithin (min units (unitCount line)) line = charsWithin units line := by
  induction line generalizing units with
  | nil => rfl
  | cons char rest ih =>
      rw [charsWithin, charsWithin, unitCount]
      by_cases fits : unitSize char ≤ units
      · have left : min units (unitSize char + unitCount rest) - unitSize char =
            min (units - unitSize char) (unitCount rest) := by omega
        rw [if_pos (by omega), if_pos fits, left, ih]
      · rw [if_neg (by omega), if_neg fits]

theorem charsWithin?_min (units : Nat) (line : List Char) :
    charsWithin? (min units (unitCount line)) line = some (charsWithin units line) := by
  rw [charsWithin?, if_pos (Nat.min_le_right _ _), charsWithin_min_unitCount]

end Units

/-! ## Breaks of lines -/

section Breaks

variable {text line : List Char}

theorem withoutBreak_concat_feed (line : List Char) :
    withoutBreak (line ++ ['\n']) = if line.getLast? = some '\r' then line.dropLast else line := by
  rcases List.eq_nil_or_concat line with rfl | ⟨front, last, rfl⟩
  · rfl
  · by_cases isReturn : last = '\r'
    · simp [withoutBreak, isReturn]
    · simp [withoutBreak, isReturn]

theorem withoutBreak_concat_return (line : List Char) : withoutBreak (line ++ ['\r']) = line := by
  simp [withoutBreak]

theorem withoutBreak_concat {last : Char} (notFeed : last ≠ '\n') (notReturn : last ≠ '\r')
    (line : List Char) : withoutBreak (line ++ [last]) = line ++ [last] := by
  simp [withoutBreak, notFeed, notReturn]

theorem withoutBreak_cons {char : Char} (notFeed : char ≠ '\n') (notReturn : char ≠ '\r')
    (line : List Char) : withoutBreak (char :: line) = char :: withoutBreak line := by
  rcases List.eq_nil_or_concat line with rfl | ⟨front, last, rfl⟩
  · exact withoutBreak_concat notFeed notReturn []
  · rw [List.concat_eq_append, ← List.cons_append]
    by_cases isFeed : last = '\n'
    · subst isFeed
      rw [withoutBreak_concat_feed, withoutBreak_concat_feed]
      cases front with
      | nil => simp [notReturn]
      | cons first rest => simp [List.getLast?_cons_cons, apply_ite (List.cons char)]
    · by_cases isReturn : last = '\r'
      · subst isReturn
        rw [withoutBreak_concat_return, withoutBreak_concat_return]
      · rw [withoutBreak_concat isFeed isReturn, withoutBreak_concat isFeed isReturn,
          List.cons_append]

theorem withoutBreak_isPrefixOf (line : List Char) : withoutBreak line <+: line := by
  rcases List.eq_nil_or_concat line with rfl | ⟨front, last, rfl⟩
  · exact List.prefix_rfl
  · rw [List.concat_eq_append]
    by_cases isFeed : last = '\n'
    · subst isFeed
      rw [withoutBreak_concat_feed]
      split
      · exact (List.dropLast_prefix front).trans (List.prefix_append _ _)
      · exact List.prefix_append _ _
    · by_cases isReturn : last = '\r'
      · subst isReturn
        rw [withoutBreak_concat_return]
        exact List.prefix_append _ _
      · exact ⟨[], by rw [withoutBreak_concat isFeed isReturn, List.append_nil]⟩

theorem mem_pushChar {char : Char} {lines : List (List Char)}
    (isLine : line ∈ pushChar char lines) :
    line = [char] ∨ (∃ first ∈ lines, line = char :: first) ∨ line ∈ lines := by
  cases lines with
  | nil => exact .inl (List.mem_singleton.1 isLine)
  | cons first others =>
      rcases List.mem_cons.1 isLine with rfl | isOther
      · exact .inr (.inl ⟨first, List.mem_cons_self, rfl⟩)
      · exact .inr (.inr (List.mem_cons_of_mem _ isOther))

/-- No carriage return is left in a line without its break. -/
theorem return_notMem_withoutBreak (isLine : line ∈ brokenLines text) :
    '\r' ∉ withoutBreak line := by
  fun_induction brokenLines text generalizing line with
  | case1 =>
      obtain rfl := List.mem_singleton.1 isLine
      decide
  | case2 rest ih =>
      rcases List.mem_cons.1 isLine with rfl | isLater
      · decide
      · exact ih isLater
  | case3 char rest _ isBreak ih =>
      rcases List.mem_cons.1 isLine with rfl | isLater
      · intro inLine
        obtain rfl := List.mem_singleton.1 ((withoutBreak_isPrefixOf [char]).subset inLine)
        simp [withoutBreak] at inLine
      · exact ih isLater
  | case4 char rest _ notBreak ih =>
      have notFeed : char ≠ '\n' := by
        rintro rfl
        exact notBreak rfl
      have notReturn : char ≠ '\r' := by
        rintro rfl
        exact notBreak rfl
      rcases mem_pushChar isLine with rfl | ⟨first, isFirst, rfl⟩ | isLater
      · rw [withoutBreak_cons notFeed notReturn]
        simp [withoutBreak, Ne.symm notReturn]
      · rw [withoutBreak_cons notFeed notReturn]
        simp [Ne.symm notReturn, ih isFirst]
      · exact ih isLater

theorem breakLength?_concat (front : List Char) (previous last : Char) :
    breakLength? (front ++ [previous] ++ [last]) = some (if previous = '\r' then 2 else 1) := by
  simp [breakLength?]

theorem columnLimit?_of_break {front : List Char} {last : Char}
    (isBreak : last = '\n' ∨ last = '\r') :
    columnLimit? (front ++ [last]) =
      some (if front.getLast? = some '\r' then front.dropLast else front).length := by
  have ends : (front ++ [last]).getLast? = some '\n' ∨ (front ++ [last]).getLast? = some '\r' := by
    simpa using isBreak
  rw [columnLimit?, if_pos ends]
  rcases List.eq_nil_or_concat front with rfl | ⟨before, previous, rfl⟩
  · rfl
  · rw [List.concat_eq_append, breakLength?_concat]
    by_cases isReturn : previous = '\r'
    · simp [difference?, isReturn]
    · simp [difference?, isReturn]

theorem columnLimit?_eq (noReturn : '\r' ∉ withoutBreak line) :
    columnLimit? line = some (withoutBreak line).length := by
  rcases List.eq_nil_or_concat line with rfl | ⟨front, last, rfl⟩
  · rfl
  · rw [List.concat_eq_append] at noReturn ⊢
    by_cases isFeed : last = '\n'
    · subst isFeed
      rw [columnLimit?_of_break (.inl rfl), withoutBreak_concat_feed]
    · by_cases isReturn : last = '\r'
      · subst isReturn
        rw [withoutBreak_concat_return] at noReturn ⊢
        have otherBefore : front.getLast? ≠ some '\r' := by
          intro isLast
          exact noReturn (List.mem_of_getLast? isLast)
        rw [columnLimit?_of_break (.inr rfl), if_neg otherBefore]
      · rw [withoutBreak_concat isFeed isReturn, columnLimit?, if_neg (by simp [isFeed, isReturn])]

end Breaks

/-! ## Places of positions -/

/-- The index is between a carriage return and the line feed behind it. -/
def SplitsBreak (text : List Char) (index : Nat) : Prop :=
  ∃ before after, text = before ++ '\r' :: '\n' :: after ∧ index = before.length + 1

/-- The order of positions: by line, and on one line by column. -/
def Position.UpTo (first second : Position) : Prop :=
  first.line < second.line ∨ first.line = second.line ∧ first.column ≤ second.column

section Places

variable {text : List Char} {position : Position}

/-- A position is past the last line, or on a line and so far behind its start. -/
theorem charIndex_cases (text : List Char) (position : Position) :
    ((brokenLines text).length ≤ position.line ∧ charIndex text position = text.length) ∨
      ∃ line, (brokenLines text)[position.line]? = some line ∧
        charIndex text position = lineStart text position.line +
          min (charsWithin position.column line) (withoutBreak line).length := by
  cases found : (brokenLines text)[position.line]? with
  | none => exact .inl ⟨List.getElem?_eq_none_iff.1 found, by simp [charIndex, found]⟩
  | some line => exact .inr ⟨line, rfl, by simp [charIndex, found, lineStart]⟩

theorem charIndex?_eq (text : List Char) (position : Position) :
    charIndex? text position = some (charIndex text position) := by
  rcases charIndex_cases text position with ⟨past, indexEq⟩ | ⟨line, isLine, indexEq⟩
  · rw [charIndex?, if_pos past, indexEq]
  · obtain ⟨inside, rfl⟩ := List.getElem?_eq_some_iff.1 isLine
    have noReturn := return_notMem_withoutBreak (List.getElem_mem inside)
    have starts : lineStart? text position.line = some (lineStart text position.line) :=
      if_pos (Nat.le_of_lt inside)
    rw [charIndex?, if_neg (Nat.not_le.2 inside), isLine, indexEq]
    simp only [Option.bind_eq_bind, Option.bind_some, charsWithin?_min, columnLimit?_eq noReturn,
      starts]

theorem lineStart_mono (text : List Char) {first second : Nat} (le : first ≤ second) :
    lineStart text first ≤ lineStart text second := by
  obtain ⟨more, moreEq⟩ : (brokenLines text).take first <+: (brokenLines text).take second :=
    List.take_prefix_take_left le
  rw [lineStart, lineStart, ← moreEq, List.flatten_append, List.length_append]
  exact Nat.le_add_right _ _

theorem lineStart_le_length (text : List Char) (line : Nat) :
    lineStart text line ≤ text.length := by
  have whole : lineStart text (max line (brokenLines text).length) = text.length := by
    rw [lineStart, List.take_of_length_le (Nat.le_max_right _ _), flatten_brokenLines]
  rw [← whole]
  exact lineStart_mono text (Nat.le_max_left _ _)

theorem lineStart_le_charIndex (text : List Char) (position : Position) :
    lineStart text position.line ≤ charIndex text position := by
  rcases charIndex_cases text position with ⟨_, indexEq⟩ | ⟨line, _, indexEq⟩
  · rw [indexEq]
    exact lineStart_le_length text position.line
  · rw [indexEq]
    exact Nat.le_add_right _ _

theorem exists_around_line {line : List Char} {number : Nat}
    (isLine : (brokenLines text)[number]? = some line) :
    ∃ earlier later, text = earlier ++ line ++ later ∧ lineStart text number = earlier.length := by
  obtain ⟨inside, rfl⟩ := List.getElem?_eq_some_iff.1 isLine
  refine ⟨((brokenLines text).take number).flatten,
    ((brokenLines text).drop (number + 1)).flatten, ?_, rfl⟩
  calc text = (brokenLines text).flatten := (flatten_brokenLines text).symm
    _ = ((brokenLines text).take (number + 1) ++ (brokenLines text).drop (number + 1)).flatten := by
        rw [List.take_append_drop]
    _ = _ := by
        rw [List.take_succ_eq_append_getElem inside, List.flatten_append, List.flatten_append,
          List.flatten_singleton]

theorem lineStart_succ {line : List Char} {number : Nat}
    (isLine : (brokenLines text)[number]? = some line) :
    lineStart text (number + 1) = lineStart text number + line.length := by
  obtain ⟨inside, rfl⟩ := List.getElem?_eq_some_iff.1 isLine
  rw [lineStart, lineStart, List.take_succ_eq_append_getElem inside, List.flatten_append,
    List.flatten_singleton, List.length_append]

/-- A place is not behind the start of any later line. -/
theorem charIndex_le_lineStart {number : Nat} (isEarlier : position.line < number)
    (isThere : number ≤ (brokenLines text).length) :
    charIndex text position ≤ lineStart text number := by
  rcases charIndex_cases text position with ⟨past, _⟩ | ⟨line, isLine, indexEq⟩
  · omega
  · have shorter := length_withoutBreak_le line
    have next := lineStart_succ isLine
    have later := lineStart_mono text (show position.line + 1 ≤ number from isEarlier)
    omega

theorem charIndex_mono (text : List Char) {first second : Position}
    (upTo : first.UpTo second) : charIndex text first ≤ charIndex text second := by
  rcases charIndex_cases text second with ⟨_, secondEq⟩ | ⟨line, isLine, secondEq⟩
  · rw [secondEq]
    exact charIndex_le_length text first
  · obtain ⟨inside, _⟩ := List.getElem?_eq_some_iff.1 isLine
    rcases upTo with isEarlier | ⟨sameLine, le⟩
    · calc charIndex text first
          ≤ lineStart text second.line := charIndex_le_lineStart isEarlier (Nat.le_of_lt inside)
        _ ≤ charIndex text second := lineStart_le_charIndex text second
    · rcases charIndex_cases text first with ⟨past, _⟩ | ⟨other, isOther, firstEq⟩
      · omega
      · rw [sameLine, isLine] at isOther
        obtain rfl := Option.some.inj isOther
        have fewer := @charsWithin_mono first.column second.column line le
        rw [firstEq, secondEq, sameLine]
        omega

theorem not_splitsBreak_zero (text : List Char) : ¬ SplitsBreak text 0 := by
  rintro ⟨before, after, _, indexEq⟩
  omega

theorem splitsBreak_cons {char : Char} {index : Nat}
    (splits : SplitsBreak (char :: text) (index + 1)) :
    (char = '\r' ∧ index = 0 ∧ ∃ after, text = '\n' :: after) ∨ SplitsBreak text index := by
  obtain ⟨before, after, textEq, indexEq⟩ := splits
  cases before with
  | nil =>
      obtain ⟨rfl, rfl⟩ := List.cons.inj textEq
      exact .inl ⟨rfl, by simpa using indexEq, after, rfl⟩
  | cons first before =>
      obtain ⟨rfl, rfl⟩ := List.cons.inj textEq
      exact .inr ⟨before, after, rfl, by simpa using indexEq⟩

theorem length_flatten_take_pushChar (char : Char) (lines : List (List Char)) (count : Nat) :
    ((pushChar char lines).take (count + 1)).flatten.length =
      (lines.take (count + 1)).flatten.length + 1 := by
  cases lines with
  | nil => simp [pushChar]
  | cons first others =>
      simp only [pushChar, List.take_succ_cons, List.flatten_cons, List.length_append,
        List.length_cons]
      omega

/-- No line starts inside a break. -/
theorem not_splitsBreak_lineStart (text : List Char) (line : Nat) :
    ¬ SplitsBreak text (lineStart text line) := by
  rw [lineStart]
  fun_induction brokenLines text generalizing line with
  | case1 =>
      rintro ⟨before, after, textEq, _⟩
      simp at textEq
  | case2 rest ih =>
      cases line with
      | zero => exact not_splitsBreak_zero _
      | succ line =>
          intro splits
          rw [List.take_succ_cons, List.flatten_cons, List.length_append, Nat.add_comm] at splits
          rcases splitsBreak_cons splits with ⟨_, isStart, _⟩ | behindReturn
          · exact absurd isStart (Nat.succ_ne_zero _)
          · rcases splitsBreak_cons behindReturn with ⟨isReturn, _⟩ | inRest
            · exact absurd isReturn (by decide)
            · exact ih line inRest
  | case3 char rest notPair isBreak ih =>
      cases line with
      | zero => exact not_splitsBreak_zero _
      | succ line =>
          intro splits
          rw [List.take_succ_cons, List.flatten_cons, List.length_append, Nat.add_comm] at splits
          rcases splitsBreak_cons splits with ⟨rfl, _, after, rfl⟩ | inRest
          · exact notPair after rfl rfl
          · exact ih line inRest
  | case4 char rest notPair notBreak ih =>
      cases line with
      | zero => exact not_splitsBreak_zero _
      | succ line =>
          intro splits
          rw [length_flatten_take_pushChar] at splits
          rcases splitsBreak_cons splits with ⟨rfl, _, after, rfl⟩ | inRest
          · exact notPair after rfl rfl
          · exact ih (line + 1) inRest

theorem not_splitsBreak_charIndex (text : List Char) (position : Position) :
    ¬ SplitsBreak text (charIndex text position) := by
  rcases charIndex_cases text position with ⟨_, indexEq⟩ | ⟨line, isLine, indexEq⟩
  · rintro ⟨before, after, textEq, splitEq⟩
    have lengthEq := congrArg List.length textEq
    simp only [List.length_append, List.length_cons] at lengthEq
    omega
  · have noReturn := return_notMem_withoutBreak (List.mem_of_getElem? isLine)
    have isPrefix := withoutBreak_isPrefixOf line
    rw [indexEq]
    generalize withoutBreak line = kept at noReturn isPrefix
    generalize offsetEq : min (charsWithin position.column line) kept.length = offset
    cases offset with
    | zero => exact not_splitsBreak_lineStart text position.line
    | succ last =>
        -- the character before the place is one of the line without its break
        rintro ⟨front, after, textEq, splitEq⟩
        obtain ⟨earlier, later, lineEq, startEq⟩ := exists_around_line isLine
        obtain ⟨ending, rfl⟩ := isPrefix
        have frontEq : front.length = earlier.length + last := by omega
        have atPlace : text[earlier.length + last]? = kept[last]? := by
          rw [lineEq, List.append_assoc, List.append_assoc,
            List.getElem?_append_right (Nat.le_add_right _ _), Nat.add_sub_cancel_left,
            List.getElem?_append_left (by omega)]
        have isReturn : text[front.length]? = some '\r' := by
          rw [textEq, List.getElem?_append_right (Nat.le_refl _), Nat.sub_self]
          rfl
        rw [frontEq, atPlace] at isReturn
        exact noReturn (List.mem_of_getElem? isReturn)

end Places

/-! ## Edits -/

namespace TextChange

theorem apply_range (text : List Char) (range : Range) (new : String) :
    apply text ⟨some range, new⟩ =
      text.take (charIndex text range.start) ++ new.toList ++
        text.drop (max (charIndex text range.start) (charIndex text range.stop)) := rfl

/-- A careful edit is the edit. -/
theorem replaced?_eq (text : List Char) (change : TextChange) :
    replaced? text change = some (apply text change) := by
  obtain ⟨range, new⟩ := change
  cases range with
  | none => rfl
  | some range =>
      simp only [replaced?, charIndex?_eq, Option.bind_eq_bind, Option.bind_some]
      have startInside := charIndex_le_length text range.start
      have stopInside := charIndex_le_length text range.stop
      rw [apply_range]
      generalize charIndex text range.start = start at startInside ⊢
      generalize charIndex text range.stop = stop at stopInside ⊢
      have startLength : (text.take start).length = start := List.length_take_of_le startInside
      have inside : start ≤ (text.take start ++ text.drop (max start stop)).length := by
        rw [List.length_append, startLength]
        exact Nat.le_add_right _ _
      rw [removeBetween?, if_pos ⟨Nat.le_max_left _ _, Nat.max_le.2 ⟨startInside, stopInside⟩⟩,
        Option.bind_some, insertAt?, if_pos inside, List.take_left' startLength,
        List.drop_left' startLength]

theorem foldlM_replaced? (text : List Char) (changes : List TextChange) :
    changes.foldlM replaced? text = some (changes.foldl apply text) := by
  induction changes generalizing text with
  | nil => rfl
  | cons change rest ih =>
      rw [List.foldlM_cons, replaced?_eq, List.foldl_cons]
      exact ih (apply text change)

end TextChange

namespace OpenDocuments

/-- No change of a document leaves its text, whatever ranges it names.  A position means a place
of the text that is never inside the break of a carriage return and a line feed, and places are
in the order of positions.  A range is replaced from the place of its start to that of its end,
or to its start if that comes later.  A document that is not open is not changed, nor is
anything else. -/
theorem change_stays_inside (opened : OpenDocuments) (uri : Uri) (version : Int)
    (changes : List TextChange) :
    (∀ text position, charIndex? text position = some (charIndex text position) ∧
      charIndex text position ≤ text.length ∧ ¬ SplitsBreak text (charIndex text position)) ∧
    (∀ text first second, Position.UpTo first second →
      charIndex text first ≤ charIndex text second) ∧
    (∀ text range new, ∃ start stop, start = charIndex text range.start ∧
      stop = max start (charIndex text range.stop) ∧ start ≤ stop ∧ stop ≤ text.length ∧
      TextChange.replaced? text ⟨some range, new⟩ =
        some (text.take start ++ new.toList ++ text.drop stop)) ∧
    (∀ document, opened.get? uri = some document →
      ∃ changed, opened.change? uri version changes = some (opened.insert changed, changed) ∧
        changes.foldlM TextChange.replaced? document.text.toList = some changed.text.toList ∧
        changed.uri = document.uri ∧ changed.version = version) ∧
    (opened.get? uri = none → opened.change? uri version changes = none ∧
      ∀ session now, session.documents = opened →
        Session.changeDocument session now uri version changes = session) := by
  refine ⟨?_, fun text _ _ upTo => charIndex_mono text upTo, ?_, ?_, ?_⟩
  · intro text position
    exact ⟨charIndex?_eq text position, charIndex_le_length text position,
      not_splitsBreak_charIndex text position⟩
  · intro text range new
    refine ⟨_, _, rfl, rfl, Nat.le_max_left _ _, ?_, ?_⟩
    · exact Nat.max_le.2 ⟨charIndex_le_length text _, charIndex_le_length text _⟩
    · rw [TextChange.replaced?_eq, TextChange.apply_range]
  · intro document isOpen
    refine ⟨changed document version changes, ?_, ?_, rfl, rfl⟩
    · rw [change?, isOpen, Option.map_some]
    · rw [TextChange.foldlM_replaced?]
      simp [changed, Document.edit, Document.ofText]
  · intro notOpen
    have unchanged : opened.change? uri version changes = none := by
      rw [change?, notOpen, Option.map_none]
    refine ⟨unchanged, ?_⟩
    rintro session now rfl
    rw [Session.changeDocument, unchanged]

/-- A range from inside a character of two units back to a column past the line before, which
means the place before the carriage return. -/
theorem change_stays_inside_of_reversed_range :
    let document := Document.ofText "file:///game/chapter.txt" 1 "a\r\n😀b"
    let opened := ({} : OpenDocuments).insert document
    let range : Range := ⟨⟨1, 1⟩, ⟨0, 9⟩⟩
    Position.UpTo range.stop range.start ∧
      charIndex "a\r\n😀b".toList range.stop ≤ charIndex "a\r\n😀b".toList range.start ∧
      charIndex "a\r\n😀b".toList range.stop = 1 ∧ charIndex "a\r\n😀b".toList range.start = 3 ∧
      opened.get? document.uri = some document ∧
      (∃ changed, opened.change? document.uri 2 [⟨some range, "!"⟩] =
          some (opened.insert changed, changed) ∧ changed.text = "a\r\n!😀b") ∧
      opened.get? "file:///game/ending.txt" = none ∧
      opened.change? "file:///game/ending.txt" 2 [⟨some range, "!"⟩] = none := by
  intro document opened range
  have isOpen : opened.get? document.uri = some document := Std.TreeMap.getElem?_insert_self
  have notOpen : opened.get? "file:///game/ending.txt" = none := by
    simp only [opened, get?_insert]
    rw [if_neg (by decide)]
    rfl
  have inOrder : Position.UpTo range.stop range.start := .inl (by decide)
  obtain ⟨_, ordered, _, changes, _⟩ :=
    change_stays_inside opened document.uri 2 [⟨some range, "!"⟩]
  obtain ⟨_, _, _, _, others⟩ :=
    change_stays_inside opened "file:///game/ending.txt" 2 [⟨some range, "!"⟩]
  obtain ⟨changed, changedEq, textEq, _, _⟩ := changes document isOpen
  have applied : [⟨some range, "!"⟩].foldlM TextChange.replaced? document.text.toList =
      some "a\r\n!😀b".toList := by decide +kernel
  rw [applied] at textEq
  refine ⟨inOrder, ordered _ _ _ inOrder, by decide, by decide, isOpen,
    ⟨changed, changedEq, ?_⟩, notOpen, (others notOpen).1⟩
  exact (String.toList_inj.1 (Option.some.inj textEq)).symm

end OpenDocuments

end Gamebook
