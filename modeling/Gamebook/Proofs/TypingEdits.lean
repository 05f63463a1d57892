import Mathlib.Data.List.Induction
import Gamebook.Editor.Completion
import Gamebook.Editor.Typing
import Gamebook.Proofs.PositionRoundTrip
import Gamebook.Proofs.TrimmedText

/-!
# Edits at the place of typing

Completion replaces the name before a position, and typographic replacements the
characters that were typed before it.  Both read the line up to the place that the
position leads to, which is the end of the line for a column past it, and count back from
the column itself.  All that is replaced takes one unit a character.  So the edit begins
where it should exactly if the column is on the line, or if there is nothing to replace.
-/

namespace Gamebook

/-! ## Characters of one unit -/

/-- Every character of the text is one of the first 128. -/
def Ascii (text : List Char) : Prop :=
  ∀ char ∈ text, char.toNat < 128

theorem unitSize_of_lt {char : Char} (small : char.toNat < 128) : unitSize char = 1 :=
  if_pos (by omega)

theorem Ascii.unitCount_eq {text : List Char} (ascii : Ascii text) :
    unitCount text = text.length := by
  induction text with
  | nil => rfl
  | cons char rest ih =>
      obtain ⟨small, others⟩ := List.forall_mem_cons.1 ascii
      rw [unitCount, unitSize_of_lt small, ih others, List.length_cons, Nat.add_comm]

/-- The characters of names, by their codes. -/
theorem isNameChar_iff {char : Char} :
    isNameChar char = true ↔
      ((65 ≤ char.toNat ∧ char.toNat ≤ 90 ∨ 97 ≤ char.toNat ∧ char.toNat ≤ 122) ∨
        48 ≤ char.toNat ∧ char.toNat ≤ 57) ∨ char.toNat = 95 := by
  have isUnderscore : char = '_' ↔ char.toNat = 95 :=
    ⟨fun equal => equal ▸ rfl, fun equal => Char.toNat_inj.1 equal⟩
  -- the classes of letters and digits are ranges of codes
  change (((decide (65 ≤ char.val ∧ char.val ≤ 90) ||
    (decide (97 ≤ char.val) && decide (char.val ≤ 122))) ||
    (decide (48 ≤ char.val) && decide (char.val ≤ 57))) || char == '_') = true ↔ _
  simp only [Bool.or_eq_true, Bool.and_eq_true, decide_eq_true_eq, beq_iff_eq,
    UInt32.le_iff_toNat_le, isUnderscore]
  rfl

theorem toNat_lt_of_isNameChar {char : Char} (inName : isNameChar char = true) :
    char.toNat < 128 := by
  have := isNameChar_iff.1 inName
  omega

/-! ## Counting back from a column -/

/-- Of two cuts of a text, the one that is not later leaves the characters between them. -/
theorem exists_between_of_byteSize_le {first second firstRest secondRest : List Char}
    (sameText : first ++ firstRest = second ++ secondRest)
    (notLater : byteSize first ≤ byteSize second) :
    ∃ between, second = first ++ between ∧ firstRest = between ++ secondRest := by
  rcases List.append_eq_append_iff.1 sameText with ⟨more, secondEq, restEq⟩ | ⟨more, rfl, rfl⟩
  · exact ⟨more, secondEq, restEq⟩
  · rw [byteSize_append] at notLater
    obtain rfl := byteSize_eq_zero.1 (by omega : byteSize more = 0)
    exact ⟨[], by simp, by simp⟩

theorem eq_of_byteSize_eq {first second firstRest secondRest : List Char}
    (sameText : first ++ firstRest = second ++ secondRest)
    (sameSize : byteSize first = byteSize second) : first = second := by
  obtain ⟨between, rfl, _⟩ := exists_between_of_byteSize_le sameText (Nat.le_of_eq sameSize)
  rw [byteSize_append] at sameSize
  obtain rfl := byteSize_eq_zero.1 (by omega : byteSize between = 0)
  rw [List.append_nil]

variable {column : Nat} {text before ending : List Char}

/-- Before a column on the line that stands behind a character of one unit, there are as many
units as the column says. -/
theorem unitCount_beforeColumn_of_ascii (onLine : column ≤ unitCount text)
    (cutEq : beforeColumn column text = before ++ ending) (ascii : Ascii ending)
    (notEmpty : ending ≠ []) : unitCount (before ++ ending) = column := by
  obtain ⟨front, last, rfl⟩ : ∃ front last, ending = front ++ [last] :=
    ⟨_, _, (List.dropLast_concat_getLast notEmpty).symm⟩
  have rounds := roundsUp_beforeColumn column text
  have textEq := beforeColumn_append_afterColumn column text
  rw [cutEq] at rounds textEq
  have lastUnit : unitCount [last] = 1 := by
    simpa [unitCount] using unitSize_of_lt (ascii last (by simp))
  have reaches := rounds.reaches
  -- without the last character the column would not be reached
  have tooShort : ¬ min column (unitCount text) ≤ unitCount (before ++ front) := by
    intro reached
    have := rounds.least (before ++ front) ([last] ++ afterColumn column text)
      (by simpa using textEq.symm) reached
    simp only [← List.append_assoc, unitCount_append] at this
    omega
  simp only [← List.append_assoc, unitCount_append] at reaches tooShort ⊢
  omega

/-- Counting back over an ending of the text before a column leads to where the ending
begins, unless the column is past the line. -/
theorem beforeColumn_back_iff (cutEq : beforeColumn column text = before ++ ending)
    (ascii : Ascii ending) :
    byteSize (beforeColumn (column - ending.length) text) = byteSize before ↔
      column ≤ unitCount text ∨ ending = [] := by
  have textEq := beforeColumn_append_afterColumn column text
  rw [cutEq] at textEq
  constructor
  · intro sameSize
    by_contra pastLine
    obtain ⟨past, notEmpty⟩ := not_or.1 pastLine
    have whole := beforeColumn_of_unitCount_le (Nat.le_of_not_le past)
    have backEq := beforeColumn_append_afterColumn (column - ending.length) text
    have sameCut := eq_of_byteSize_eq
      (backEq.trans (whole.symm.trans cutEq)) sameSize
    have reaches := (roundsUp_beforeColumn (column - ending.length) text).reaches
    have unitsEq : unitCount text = unitCount before + ending.length := by
      rw [← whole, cutEq, unitCount_append, ascii.unitCount_eq]
    have := List.length_pos_iff.2 notEmpty
    rw [sameCut] at reaches
    omega
  · rintro (onLine | rfl)
    · by_cases isEmpty : ending = []
      · subst isEmpty
        rw [List.length_nil, Nat.sub_zero, cutEq, List.append_nil]
      · have units := unitCount_beforeColumn_of_ascii onLine cutEq ascii isEmpty
        rw [unitCount_append, ascii.unitCount_eq] at units
        rw [← textEq, List.append_assoc, show column - ending.length = unitCount before by omega,
          beforeColumn_unitCount]
    · rw [List.length_nil, Nat.sub_zero, cutEq, List.append_nil]

namespace Source

variable {source : Source} {position : Position} {line : Fragment}

theorem offsetOf?_of_cut (isLine : source.line? position.line = some line)
    (cutEq : beforeColumn position.column line.chars = before ++ ending) :
    source.offsetOf? position = some (line.start + byteSize before + byteSize ending) := by
  rw [offsetOf?, isLine, Option.map_some, cutEq, byteSize_append, Nat.add_assoc]

theorem offsetOf?_back_iff (isLine : source.line? position.line = some line)
    (cutEq : beforeColumn position.column line.chars = before ++ ending) (ascii : Ascii ending) :
    source.offsetOf? ⟨position.line, position.column - ending.length⟩ =
        some (line.start + byteSize before) ↔
      position.column ≤ unitCount line.chars ∨ ending = [] := by
  rw [← beforeColumn_back_iff cutEq ascii, offsetOf?, isLine, Option.map_some, Option.some.injEq,
    Nat.add_left_cancel_iff]

theorem line?_within (isLine : source.line? position.line = some line) :
    line.Within source.whole := by
  obtain ⟨raw, isRaw, rfl⟩ := Option.map_eq_some_iff.1 isLine
  exact (content_within raw).trans (within_of_mem_lines (List.mem_of_getElem? isRaw))

/-- What stands before a position can be read back from the source. -/
theorem slice_before (isLine : source.line? position.line = some line)
    (cutEq : beforeColumn position.column line.chars = before ++ ending) :
    source.slice ⟨line.start + byteSize before, line.start + byteSize before + byteSize ending⟩ =
      String.ofList ending := by
  have inLine : Fragment.Within ⟨line.start + byteSize before, ending⟩ line := by
    refine ⟨before, afterColumn position.column line.chars, ?_, rfl⟩
    rw [← cutEq, beforeColumn_append_afterColumn]
  have sliced := (inLine.trans (line?_within isLine)).slice rfl
  rw [slice, Span.text, show source.chars = source.whole.chars from rfl]
  exact congrArg (fun chars => String.ofList (Option.getD chars [])) sliced

end Source

/-! ## The name before a position -/

/-- `typed` is the longest run of name characters on a line that ends at an offset. -/
structure NameBefore (line : Fragment) (offset : Nat) (typed : List Char) : Prop where
  inName : ∀ char ∈ typed, isNameChar char = true
  longest : ∃ before after, line.chars = before ++ typed ++ after ∧
    offset = line.start + byteSize before + byteSize typed ∧
    ∀ char ∈ before.getLast?, isNameChar char = false

theorem splitPartialName_spec (text : List Char) :
    ∃ before typed, splitPartialName text = (before, typed) ∧ text = before ++ typed ∧
      (∀ char ∈ typed, isNameChar char = true) ∧
      ∀ char ∈ before.getLast?, isNameChar char = false := by
  obtain ⟨typed, textEq, inName⟩ := exists_dropped_ending isNameChar text
  refine ⟨trimEndChars isNameChar text, typed, ?_, textEq.symm, inName, last_trimEndChars text⟩
  have dropped := congrArg (List.drop (trimEndChars isNameChar text).length) textEq
  rw [List.drop_left] at dropped
  rw [splitPartialName, dropped]

namespace ProjectSnapshot

variable {snapshot : ProjectSnapshot} {uri : Uri} {entry : SceneEntry} {position : Position}
  {line : Fragment}

/-- The range of a completion, and the name it is counted back over. -/
theorem complete?_range {completion : Completion} (isDocument : snapshot.document? uri = some entry)
    (isLine : entry.scene.source.line? position.line = some line)
    (completes : snapshot.complete? uri position = some completion) :
    ∃ before typed, beforeColumn position.column line.chars = before ++ typed ∧
      (∀ char ∈ typed, isNameChar char = true) ∧
      (∀ char ∈ before.getLast?, isNameChar char = false) ∧
      completion.range = ⟨⟨position.line, position.column - typed.length⟩, position⟩ := by
  obtain ⟨before, typed, splitEq, textEq, inName, lastFree⟩ :=
    splitPartialName_spec (beforeColumn position.column line.chars)
  simp only [complete?, isDocument, Source.lineBefore?, isLine, Option.map_some,
    Option.bind_eq_bind, Option.bind_some, splitEq, Option.bind_eq_some_iff, Option.some.injEq]
    at completes
  obtain ⟨items, _, rfl⟩ := completes
  exact ⟨before, typed, textEq, inName, lastFree, rfl⟩

end ProjectSnapshot

/-- A replacement while typing is of a known pattern that ends at the position. -/
theorem Scene.formatTyped?_cases {scene : Scene} {position : Position} {line : Fragment}
    {typed : String} {edits : List TextEdit}
    (isLine : scene.source.line? position.line = some line)
    (formats : scene.formatTyped? position typed = some edits) :
    ∃ before pattern newText, (pattern, newText) ∈ typographicPairs ∧
      beforeColumn position.column line.chars = before ++ pattern.toList ∧
      edits = [⟨⟨⟨position.line, position.column - pattern.length⟩, position⟩, newText⟩] := by
  simp only [formatTyped?, Source.lineBefore?, isLine, Option.map_some, Option.bind_eq_bind,
    Option.bind_some] at formats
  split at formats
  · contradiction
  · obtain ⟨⟨pattern, newText⟩, isPair, formats⟩ := Option.bind_eq_some_iff.1 formats
    split at formats
    · contradiction
    · obtain rfl := Option.some.inj formats
      have isSuffix := List.find?_some isPair
      simp only [Bool.and_eq_true, List.isSuffixOf_iff_suffix] at isSuffix
      obtain ⟨before, textEq⟩ := isSuffix.2
      exact ⟨before, pattern, newText, List.mem_of_find?_eq_some isPair, textEq.symm, rfl⟩

theorem ascii_of_typographicPairs {pattern newText : String}
    (isPair : (pattern, newText) ∈ typographicPairs) :
    Ascii pattern.toList ∧ pattern.toList ≠ [] := by
  have each : ∀ pair ∈ typographicPairs,
      (pair.1.toList.all fun char => char.toNat < 128) = true ∧ pair.1.toList ≠ [] := by
    decide
  obtain ⟨small, notEmpty⟩ := each _ isPair
  exact ⟨fun char isChar => of_decide_eq_true (List.all_eq_true.1 small char isChar), notEmpty⟩

namespace ProjectSnapshot

/-- What is edited at a position whose line exists.  Both a completion and a typographic
replacement end at the place that the position leads to.  The completion begins where the
name before that place does, and the replacement where the replaced characters do, exactly
if the column is on the line; with no name to replace, the completion also does past it. -/
theorem typing_edits_replace (snapshot : ProjectSnapshot) (uri : Uri) (entry : SceneEntry)
    (isDocument : snapshot.document? uri = some entry) (position : Position) (line : Fragment)
    (isLine : entry.scene.source.line? position.line = some line) :
    ∃ offset, entry.scene.source.offsetOf? position = some offset ∧
      (∀ completion, snapshot.complete? uri position = some completion →
        ∃ typed, NameBefore line offset typed ∧
          entry.scene.source.offsetOf? completion.range.stop = some offset ∧
          (entry.scene.source.offsetOf? completion.range.start =
              some (offset - byteSize typed) ↔
            position.column ≤ unitCount line.chars ∨ typed = [])) ∧
      ∀ typed edits, entry.scene.formatTyped? position typed = some edits →
        ∃ edit pattern, edits = [edit] ∧ (pattern, edit.newText) ∈ typographicPairs ∧
          entry.scene.source.slice ⟨offset - pattern.utf8ByteSize, offset⟩ = pattern ∧
          entry.scene.source.offsetOf? edit.range.stop = some offset ∧
          (entry.scene.source.offsetOf? edit.range.start =
              some (offset - pattern.utf8ByteSize) ↔
            position.column ≤ unitCount line.chars) := by
  refine ⟨line.start + byteSize (beforeColumn position.column line.chars),
    by rw [Source.offsetOf?, isLine, Option.map_some], ?_, ?_⟩
  · intro completion completes
    obtain ⟨before, typed, cutEq, inName, lastFree, rangeEq⟩ :=
      complete?_range isDocument isLine completes
    have ascii : Ascii typed := fun char isChar => toNat_lt_of_isNameChar (inName char isChar)
    have lineEq := beforeColumn_append_afterColumn position.column line.chars
    rw [cutEq] at lineEq
    refine ⟨typed, ⟨inName, before, afterColumn position.column line.chars, lineEq.symm, ?_,
      lastFree⟩, ?_, ?_⟩
    · rw [cutEq, byteSize_append, Nat.add_assoc]
    · rw [rangeEq, Source.offsetOf?, isLine, Option.map_some]
    · rw [rangeEq, cutEq, byteSize_append, ← Nat.add_assoc, Nat.add_sub_cancel]
      exact Source.offsetOf?_back_iff isLine cutEq ascii
  · intro typed edits formats
    obtain ⟨before, pattern, newText, isPair, cutEq, rfl⟩ :=
      Scene.formatTyped?_cases isLine formats
    obtain ⟨ascii, notEmpty⟩ := ascii_of_typographicPairs isPair
    refine ⟨_, pattern, rfl, isPair, ?_⟩
    rw [cutEq, byteSize_append, ← Nat.add_assoc, byteSize_toList, Nat.add_sub_cancel]
    refine ⟨?_, ?_, ?_⟩
    · have sliced := Source.slice_before isLine cutEq
      rwa [byteSize_toList, String.ofList_toList] at sliced
    · have offsetEq := Source.offsetOf?_of_cut isLine cutEq
      rwa [byteSize_toList] at offsetEq
    · have back := Source.offsetOf?_back_iff isLine cutEq ascii
      rwa [or_iff_left notEmpty, String.length_toList] at back

/-- The name of a command behind a wide blank, on a line that ends with a carriage return, and
two hyphens behind a quotation mark of three bytes. -/
theorem typing_edits_replace_on_line :
    let entry := SceneEntry.ofDocument (.ofText "file:///game/chapter.txt" 1
      "\u3000*fin\r\n“No--")
    let snapshot := ProjectSnapshot.withEntry {} entry
    snapshot.document? entry.uri = some entry ∧
      (entry.scene.source.line? 0 = some ⟨0, "\u3000*fin".toList⟩ ∧
        ∃ completion, snapshot.complete? entry.uri ⟨0, 5⟩ = some completion ∧
          ∃ typed, NameBefore ⟨0, "\u3000*fin".toList⟩ 7 typed ∧
            entry.scene.source.offsetOf? completion.range.start = some (7 - byteSize typed)) ∧
      entry.scene.source.line? 1 = some ⟨9, "“No--".toList⟩ ∧
        ∃ edit, entry.scene.formatTyped? ⟨1, 5⟩ "-" = some [edit] ∧
          ∃ pattern, entry.scene.source.slice ⟨16 - pattern.utf8ByteSize, 16⟩ = pattern ∧
            entry.scene.source.offsetOf? edit.range.start =
              some (16 - pattern.utf8ByteSize) := by
  intro entry snapshot
  have isDocument : snapshot.document? entry.uri = some entry := by
    simp [snapshot, document?, withEntry]
  have isCommand : entry.scene.source.line? 0 = some ⟨0, "\u3000*fin".toList⟩ := by decide +kernel
  have isProse : entry.scene.source.line? 1 = some ⟨9, "“No--".toList⟩ := by decide +kernel
  refine ⟨isDocument, ⟨isCommand, ?_⟩, isProse, ?_⟩
  · have completes : (snapshot.complete? entry.uri ⟨0, 5⟩).isSome = true := by
      rw [complete?, isDocument]
      decide +kernel
    obtain ⟨completion, isCompletion⟩ := Option.isSome_iff_exists.1 completes
    obtain ⟨offset, isOffset, names, _⟩ :=
      typing_edits_replace snapshot entry.uri entry isDocument ⟨0, 5⟩ _ isCommand
    obtain rfl : offset = 7 := by
      have : entry.scene.source.offsetOf? ⟨0, 5⟩ = some 7 := by decide +kernel
      exact Option.some.inj (isOffset.symm.trans this)
    obtain ⟨typed, isName, _, begins⟩ := names completion isCompletion
    exact ⟨completion, isCompletion, typed, isName, begins.2 (.inl (by decide))⟩
  · have formats : entry.scene.formatTyped? ⟨1, 5⟩ "-" =
        some [⟨⟨⟨1, 3⟩, ⟨1, 5⟩⟩, "—"⟩] := by decide +kernel
    obtain ⟨offset, isOffset, _, replaces⟩ :=
      typing_edits_replace snapshot entry.uri entry isDocument ⟨1, 5⟩ _ isProse
    obtain rfl : offset = 16 := by
      have : entry.scene.source.offsetOf? ⟨1, 5⟩ = some 16 := by decide +kernel
      exact Option.some.inj (isOffset.symm.trans this)
    obtain ⟨edit, pattern, editsEq, _, sliced, _, begins⟩ := replaces _ _ formats
    exact ⟨edit, formats.trans (congrArg some editsEq), pattern, sliced,
      begins.2 (by decide)⟩

/-- Past the end of a line completion and typographic replacement leave what they are meant
to replace: the range of either is empty and stands behind it. -/
theorem typing_edits_miss_past_line :
    let entry := SceneEntry.ofDocument (.ofText "file:///game/chapter.txt" 1
      "*fin\nWait...")
    let snapshot := ProjectSnapshot.withEntry {} entry
    let source := entry.scene.source
    source.offsetOf? ⟨0, 9⟩ = some 4 ∧ NameBefore ⟨0, "*fin".toList⟩ 4 "fin".toList ∧
      (∃ completion, snapshot.complete? entry.uri ⟨0, 9⟩ = some completion ∧
        source.offsetOf? completion.range.start = some 4) ∧
      source.offsetOf? ⟨1, 10⟩ = some 12 ∧ source.slice ⟨9, 12⟩ = "..." ∧
      entry.scene.formatTyped? ⟨1, 10⟩ "." = some [⟨⟨⟨1, 7⟩, ⟨1, 10⟩⟩, "…"⟩] ∧
      source.offsetOf? ⟨1, 7⟩ = some 12 := by
  intro entry snapshot source
  have isDocument : snapshot.document? entry.uri = some entry := by
    simp [snapshot, document?, withEntry]
  have isName : NameBefore ⟨0, "*fin".toList⟩ 4 "fin".toList := by
    refine ⟨List.all_eq_true.1 (by decide), ['*'], [], by decide, by decide, ?_⟩
    rintro _ ⟨⟩
    rfl
  have completes : (snapshot.complete? entry.uri ⟨0, 9⟩).map (·.range) =
      some ⟨⟨0, 6⟩, ⟨0, 9⟩⟩ := by
    rw [complete?, isDocument]
    decide +kernel
  obtain ⟨completion, isCompletion, rangeEq⟩ := Option.map_eq_some_iff.1 completes
  refine ⟨by decide +kernel, isName, ⟨completion, isCompletion, ?_⟩, by decide +kernel,
    by decide +kernel, by decide +kernel, by decide +kernel⟩
  rw [rangeEq]
  decide +kernel

end ProjectSnapshot

end Gamebook
