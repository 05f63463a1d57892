import Gamebook.Editor.Hover
import Gamebook.Proofs.ChoiceStructure
import Gamebook.Proofs.OptionGrammar
import Gamebook.Proofs.TypingEdits
import Mathlib.Data.List.Nodup

/-!
# The command under the cursor

A line that starts with a star is read as a command by the word behind the star, which
goes on to the next blank.  A command is described for the name behind a star, which
goes on to the next character that no name has.  The two agree on every word of name
characters.  A word with another character names no command, although a name in it may
be described: `*if(gold > 0)` is an unknown command, shown as an `*if`.
-/

namespace Gamebook

/-! ## Names of commands -/

theorem isNameChar_of_isNameChar_toLower {char : Char}
    (lowerInName : isNameChar char.toLower = true) : isNameChar char = true := by
  unfold Char.toLower at lowerInName
  split at lowerInName
  · rename_i isUpper
    obtain ⟨low, high⟩ := isUpper
    have low : 65 ≤ char.toNat := low
    have high : char.toNat ≤ 90 := high
    exact isNameChar_iff.2 (by omega)
  · exact lowerInName

theorem not_isNameChar_of_isBlank {char : Char} (blank : isBlank char = true) :
    isNameChar char = false := by
  rw [Bool.eq_false_iff]
  intro inName
  have := isNameChar_iff.1 inName
  simp only [isBlank, Bool.or_eq_true, Bool.and_eq_true, decide_eq_true_eq, beq_iff_eq] at blank
  omega

namespace Command

/-- What is shown for a command. -/
def help (command : Command) : String :=
  s!"**\\*{command.name}**\n\n{command.description}"

theorem eq_of_help_eq {first second : Command} (isFirst : first ∈ table)
    (isSecond : second ∈ table) (helpEq : first.help = second.help) : first = second := by
  have different : (table.map help).Nodup := by decide +kernel
  exact List.inj_on_of_nodup_map different isFirst isSecond helpEq

theorem find?_eq_some_iff {word : String} {command : Command} (isCommand : command ∈ table) :
    find? word = some command ↔ command.name = word.toLower := by
  constructor
  · intro found
    have spelt := List.find?_some found
    exact beq_iff_eq.1 spelt
  · intro spelt
    have each : ∀ command ∈ table, table.find? (·.name == command.name) = some command := by
      decide +kernel
    rw [find?, ← spelt, each command isCommand]

theorem isNameChar_of_find? {word : String} {command : Command}
    (found : find? word = some command) : ∀ char ∈ word.toList, isNameChar char = true := by
  have plain : ∀ command ∈ table, command.name.toList.all isNameChar = true := by
    decide +kernel
  have isCommand := List.mem_of_find?_eq_some found
  intro char inWord
  apply isNameChar_of_isNameChar_toLower
  apply List.all_eq_true.1 (plain command isCommand)
  rw [(find?_eq_some_iff isCommand).1 found]
  change char.toLower ∈ (word.map Char.toLower).toList
  rw [String.toList_map]
  exact List.mem_map_of_mem inWord

theorem exists_find?_of_modifier {word : String} {modifier : Modifier}
    (isModifier : Modifier.find? word = some modifier) :
    ∃ command, find? word = some command ∧ command.name = modifier.name := by
  have spelt := Modifier.find?_eq_some_iff.1 isModifier
  obtain ⟨command, isCommand, nameEq⟩ : ∃ command ∈ table, command.name = modifier.name := by
    cases modifier <;> decide +kernel
  exact ⟨command, (find?_eq_some_iff isCommand).2 (nameEq.trans spelt.symm), nameEq⟩

end Command

/-! ## What a line begins with -/

namespace LineKind

/-- The line is the command, or an option whose first modifier is. -/
def BeginsWith (kind : LineKind) (command : Command) : Prop :=
  match kind with
  | LineKind.command known _ => known.name = command.name
  | LineKind.option line => line.modifiers.head?.map Modifier.name = some command.name
  | .prose | .unknown _ => False

end LineKind

theorem OptionLine.first_modifier {content : Fragment} {option : OptionLine}
    (starred : content.chars.head? = some '*') (isOption : ofContent? content = some option) :
    ∃ modifier, Modifier.find? (commandName content).text = some modifier ∧
      option.modifiers.head? = some modifier := by
  obtain ⟨rest, charsEq⟩ := List.head?_eq_some_iff.1 starred
  rw [ofContent?_of_star charsEq] at isOption
  obtain ⟨modifier, isModifier, isOption⟩ := Option.bind_eq_some_iff.1 isOption
  refine ⟨modifier, isModifier, ?_⟩
  split at isOption
  · obtain ⟨mark, _, isOption⟩ := Option.bind_eq_some_iff.1 isOption
    simp only at isOption
    split at isOption
    · contradiction
    · obtain rfl := Option.some.inj isOption
      rfl
  · obtain ⟨inner, _, rfl⟩ := Option.map_eq_some_iff.1 isOption
    rfl

namespace LineKind

variable {content : Fragment} {command : Command}

/-- A starred line begins with the command that the word behind the star names. -/
theorem beginsWith_iff (starred : content.chars.head? = some '*')
    (isCommand : command ∈ Command.table) :
    (ofContent content).BeginsWith command ↔
      Command.find? (commandName content).text = some command := by
  rw [Command.find?_eq_some_iff isCommand, ofContent]
  cases optionEq : OptionLine.ofContent? content with
  | some option =>
      obtain ⟨modifier, isModifier, firstEq⟩ := OptionLine.first_modifier starred optionEq
      have spelt := Modifier.find?_eq_some_iff.1 isModifier
      simp [BeginsWith, firstEq, spelt, eq_comm]
  | none =>
      rw [if_pos starred]
      cases findEq : Command.find? (commandName content).text with
      | some known =>
          have spelt := (Command.find?_eq_some_iff (List.mem_of_find?_eq_some findEq)).1 findEq
          simp [BeginsWith, spelt, eq_comm]
      | none =>
          have notNamed : command.name ≠ (commandName content).text.toLower := by
            rw [ne_eq, ← Command.find?_eq_some_iff isCommand, findEq]
            simp
          simp [BeginsWith, notNamed]

theorem ofContent_eq_unknown_iff (starred : content.chars.head? = some '*') :
    ofContent content = .unknown (commandName content) ↔
      Command.find? (commandName content).text = none := by
  rw [ofContent]
  cases optionEq : OptionLine.ofContent? content with
  | some option =>
      obtain ⟨modifier, isModifier, _⟩ := OptionLine.first_modifier starred optionEq
      obtain ⟨command, found, _⟩ := Command.exists_find?_of_modifier isModifier
      simp [found]
  | none =>
      rw [if_pos starred]
      cases Command.find? (commandName content).text <;> simp

end LineKind

/-! ## The name behind a star -/

/-- Right behind the star of a line at an offset, `name` is the longest run of name
characters. -/
structure NameBehindStar (line : Fragment) (star : Nat) (name : List Char) : Prop where
  inName : ∀ char ∈ name, isNameChar char = true
  longest : ∃ before after, line.chars = before ++ '*' :: (name ++ after) ∧
    star = line.start + byteSize before ∧ ∀ char ∈ after.head?, isNameChar char = false

section Hovers

variable {source : Source} {position : Position} {line : Fragment} {star offset : Nat}
  {name : List Char}

theorem splitPartialName_append {before typed : List Char}
    (lastFree : ∀ char ∈ before.getLast?, isNameChar char = false)
    (inName : ∀ char ∈ typed, isNameChar char = true) :
    splitPartialName (before ++ typed) = (before, typed) := by
  have kept : trimEndChars isNameChar (before ++ typed) = before := by
    rw [trimEndChars_append_of_all before inName]
    rcases List.eq_nil_or_concat before with rfl | ⟨front, last, rfl⟩
    · rfl
    · rw [List.concat_eq_append] at lastFree ⊢
      exact trimEndChars_concat front (lastFree last (by simp))
  rw [splitPartialName, kept, List.drop_left]

/-- On the name behind a star, the command of that name is described. -/
theorem commandHover?_of_nameBehindStar (isLine : source.line? position.line = some line)
    (isOffset : source.offsetOf? position = some offset) (isName : NameBehindStar line star name)
    (behindStar : star < offset) (inName : offset ≤ star + 1 + byteSize name) :
    commandHover? source position = (Command.find? (String.ofList name)).map fun command =>
      ⟨command.help, source.rangeOf ⟨star, star + 1 + byteSize name⟩⟩ := by
  obtain ⟨before, after, charsEq, starEq, afterFree⟩ := isName.longest
  rw [Source.offsetOf?, isLine, Option.map_some, Option.some.injEq] at isOffset
  have starSize : byteSize ['*'] = 1 := rfl
  -- the cut at the position is behind the star and not behind the name
  have cutEq : (before ++ ['*']) ++ (name ++ after) =
      beforeColumn position.column line.chars ++ afterColumn position.column line.chars := by
    rw [beforeColumn_append_afterColumn, charsEq, List.append_assoc, List.singleton_append]
  obtain ⟨typed, typedEq, nameEq⟩ := exists_between_of_byteSize_le cutEq
    (by rw [byteSize_append]; omega)
  have typedSize := congrArg byteSize typedEq
  simp only [byteSize_append] at typedSize
  obtain ⟨rest, rfl, restEq⟩ := exists_between_of_byteSize_le nameEq.symm (by omega)
  obtain ⟨typedInName, restInName⟩ := List.forall_mem_append.1 isName.inName
  have split : splitPartialName (before ++ ['*'] ++ typed) = (before ++ ['*'], typed) :=
    splitPartialName_append (by simp; decide) typedInName
  have taken : (rest ++ after).takeWhile isNameChar = rest := by
    rw [takeWhile_append_of_head? afterFree, List.takeWhile_eq_self_iff.2 restInName]
  simp only [commandHover?, isLine, typedEq, split, restEq, taken, Option.bind_eq_bind,
    Option.bind_some, List.getLast?_concat, if_true]
  cases Command.find? (String.ofList (typed ++ rest)) with
  | none => rfl
  | some command =>
      have startEq : line.start + byteSize (before ++ ['*']) = star + 1 := by
        rw [byteSize_append, starEq, starSize, Nat.add_assoc]
      rw [startEq]
      rfl

/-- The help of the command is shown at the position. -/
def Source.Describes (source : Source) (position : Position) (command : Command) : Prop :=
  ∃ range, commandHover? source position = some ⟨command.help, range⟩

theorem describes_of_nameBehindStar_iff {command : Command} (isCommand : command ∈ Command.table)
    (isLine : source.line? position.line = some line)
    (isOffset : source.offsetOf? position = some offset) (isName : NameBehindStar line star name)
    (behindStar : star < offset) (inName : offset ≤ star + 1 + byteSize name) :
    source.Describes position command ↔ Command.find? (String.ofList name) = some command := by
  rw [Source.Describes, commandHover?_of_nameBehindStar isLine isOffset isName behindStar inName]
  constructor
  · rintro ⟨range, shown⟩
    obtain ⟨found, isFound, shownEq⟩ := Option.map_eq_some_iff.1 shown
    rw [isFound, Command.eq_of_help_eq (List.mem_of_find?_eq_some isFound) isCommand
      (congrArg Hover.text shownEq)]
  · intro found
    exact ⟨_, by rw [found, Option.map_some]⟩

/-- Where something is shown for a command, there is a name behind a star. -/
theorem exists_nameBehindStar {hover : Hover} (isLine : source.line? position.line = some line)
    (isOffset : source.offsetOf? position = some offset)
    (shown : commandHover? source position = some hover) :
    ∃ star name, NameBehindStar line star name ∧ star < offset ∧
      offset ≤ star + 1 + byteSize name := by
  obtain ⟨before, typed, splitEq, beforeEq, typedInName, _⟩ :=
    splitPartialName_spec (beforeColumn position.column line.chars)
  simp only [commandHover?, isLine, splitEq, Option.bind_eq_bind, Option.bind_some] at shown
  split at shown
  · rename_i endsWithStar
    obtain ⟨front, rfl⟩ := List.getLast?_eq_some_iff.1 endsWithStar
    let rest := afterColumn position.column line.chars
    rw [Source.offsetOf?, isLine, Option.map_some, Option.some.injEq, beforeEq] at isOffset
    have starSize : byteSize ['*'] = 1 := rfl
    simp only [byteSize_append] at isOffset
    refine ⟨line.start + byteSize front, typed ++ rest.takeWhile isNameChar,
      ⟨?_, front, rest.dropWhile isNameChar, ?_, rfl, ?_⟩, by omega, ?_⟩
    · exact List.forall_mem_append.2 ⟨typedInName, fun _ => List.mem_takeWhile_imp⟩
    · rw [List.append_assoc, List.takeWhile_append_dropWhile,
        ← beforeColumn_append_afterColumn position.column line.chars, beforeEq]
      simp [rest]
    · intro char isHead
      have := List.head?_dropWhile_not isNameChar rest
      simpa [Option.mem_def.1 isHead] using this
    · rw [byteSize_append]
      omega
  · contradiction

/-- A command is described exactly on a name behind a star that spells it. -/
theorem describes_iff {command : Command} (isCommand : command ∈ Command.table)
    (isLine : source.line? position.line = some line)
    (isOffset : source.offsetOf? position = some offset) :
    source.Describes position command ↔
      ∃ star name, NameBehindStar line star name ∧ star < offset ∧
        offset ≤ star + 1 + byteSize name ∧
        Command.find? (String.ofList name) = some command := by
  constructor
  · intro described
    have ⟨_, shown⟩ := described
    obtain ⟨star, name, isName, behindStar, inName⟩ := exists_nameBehindStar isLine isOffset shown
    have named := describes_of_nameBehindStar_iff isCommand isLine isOffset isName behindStar inName
    exact ⟨star, name, isName, behindStar, inName, named.1 described⟩
  · rintro ⟨star, name, isName, behindStar, inName, found⟩
    exact (describes_of_nameBehindStar_iff isCommand isLine isOffset isName behindStar inName).2
      found

end Hovers

/-! ## The word behind the star of a line -/

section Words

variable {line : Line} {text : Fragment}

theorem stop_commandName {content : Fragment} (starred : content.chars.head? = some '*') :
    (commandName content).stop = content.start + 1 + byteSize (commandName content).chars := by
  obtain ⟨rest, charsEq⟩ := List.head?_eq_some_iff.1 starred
  have starSize : '*'.utf8Size = 1 := rfl
  simp [Fragment.stop, commandName, Fragment.takeWhile, Fragment.drop, charsEq, starSize]

/-- A word of name characters is all of the name behind the star. -/
theorem nameBehindStar_commandName {number : Nat}
    (isLine : Line.ofFragment? number text = some line)
    (starred : line.content.chars.head? = some '*')
    (plain : ∀ char ∈ (commandName line.content).chars, isNameChar char = true) :
    NameBehindStar text line.content.start (commandName line.content).chars := by
  have notBlankHead {behind : List Char} (blanks : ∀ char ∈ behind.head?, isBlank char = true) :
      ∀ char ∈ behind.head?, isNameChar char = false := fun char isHead =>
    not_isNameChar_of_isBlank (blanks char isHead)
  obtain ⟨rest, charsEq⟩ := List.head?_eq_some_iff.1 starred
  have contentEq : line.content = (text.dropWhile isIndentation).trimEnd := by
    simp only [Line.ofFragment?] at isLine
    split at isLine
    · contradiction
    · exact congrArg Line.content (Option.some.inj isLine).symm
  obtain ⟨ending, endingEq, endsBlank⟩ :=
    exists_dropped_ending isBlank (text.dropWhile isIndentation).chars
  have restEq : text.dropWhile isIndentation =
      ⟨line.content.start, line.content.chars ++ ending⟩ := by
    rw [contentEq]
    exact congrArg (Fragment.mk _) endingEq.symm
  refine ⟨plain, text.chars.takeWhile isIndentation, rest.dropWhile (!isBlank ·) ++ ending, ?_,
    ?_, notBlankHead ?_⟩
  · have nameEq : (commandName line.content).chars = rest.takeWhile (!isBlank ·) := by
      simp [commandName, Fragment.takeWhile, Fragment.drop, charsEq]
    have dropped : text.chars.dropWhile isIndentation = '*' :: (rest ++ ending) := by
      rw [← List.cons_append, ← charsEq]
      exact congrArg Fragment.chars restEq
    rw [nameEq, ← List.append_assoc (rest.takeWhile _), List.takeWhile_append_dropWhile,
      ← dropped, List.takeWhile_append_dropWhile]
  · exact (congrArg Fragment.start restEq).symm
  · intro char isHead
    rw [List.head?_append] at isHead
    cases behindEq : rest.dropWhile (!isBlank ·) with
    | nil =>
        rw [behindEq] at isHead
        exact endsBlank char (List.mem_of_mem_head? (by simpa using isHead))
    | cons first later =>
        rw [behindEq] at isHead
        obtain rfl : first = char := by simpa using isHead
        simpa using head_of_dropWhile_eq_cons behindEq

end Words

/-! ## Unknown commands -/

section Faults

variable {name : String} {span : Span}

theorem unknownCommand_mem_lineFindings_iff {surroundings : Surroundings}
    {previous : Option Command} {line : Line} {nested : Outline} :
    .wrong (.unknownCommand name) span ∈ lineFindings surroundings previous line nested ↔
      ∃ word, line.kind = .unknown word ∧ name = word.text.toLower ∧
        span = unknownSpan line word := by
  have notWording : ¬ (FaultCause.unknownCommand name).IsWording := id
  rw [wrong_mem_lineFindings_iff_of_kind notWording]
  cases line.kind with
  | command command arguments =>
      simp [wrong_mem_commandFindings_iff notWording, wrong_mem_bodyFindings_iff notWording,
        wrong_mem_unexpectedFindings_iff]
  | option option => simp [wrong_mem_optionFindings_iff notWording]
  | prose => simp [wrong_mem_unexpectedFindings_iff]
  | unknown word => simp

theorem Scene.unknownCommand_mem_faults_iff {scene : Scene} :
    ⟨.unknownCommand name, span⟩ ∈ scene.faults ↔
      ∃ place ∈ scene.outline.walked, ∃ word, place.line.kind = .unknown word ∧
        name = word.text.toLower ∧ span = unknownSpan place.line word := by
  rw [wrong_mem_faults_iff (by simp)]
  simp only [unknownCommand_mem_lineFindings_iff]

end Faults

namespace Scene

/-- What is described on the word behind the star of a line.  On a word of name characters it
is exactly the command that the line begins with, and a line on which a command is described
is not reported as unknown.  A word with another character is an unknown command, reported
wherever the walk comes; a command is still described there if a name behind a star spells
one. -/
theorem described_command_is_read (scene : Scene) (line : Line)
    (isLine : line ∈ scene.outline.lines) (starred : line.content.chars.head? = some '*')
    (position : Position) (onLine : position.line = line.number) (offset : Nat)
    (isOffset : scene.source.offsetOf? position = some offset)
    (behindStar : line.content.start < offset)
    (inWord : offset ≤ (commandName line.content).stop) :
    ((∀ char ∈ (commandName line.content).chars, isNameChar char = true) →
      ∀ command ∈ Command.table,
        (scene.source.Describes position command ↔ line.kind.BeginsWith command) ∧
        (scene.source.Describes position command →
          ∀ name span, ⟨.unknownCommand name, span⟩ ∈ scene.faults →
            span.start ≠ line.content.start)) ∧
    ((∃ char ∈ (commandName line.content).chars, isNameChar char = false) →
      line.kind = .unknown (commandName line.content) ∧
      (∀ place ∈ scene.outline.walked, place.line = line →
        ⟨.unknownCommand (commandName line.content).text.toLower,
          unknownSpan line (commandName line.content)⟩ ∈ scene.faults) ∧
      ∀ text, scene.source.line? line.number = some text → ∀ command ∈ Command.table,
        scene.source.Describes position command ↔
          ∃ star name, NameBehindStar text star name ∧ star < offset ∧
            offset ≤ star + 1 + byteSize name ∧
            Command.find? (String.ofList name) = some command) := by
  have kindEq := kind_eq_ofContent isLine
  have isContent := isLine
  rw [outline_lines] at isContent
  obtain ⟨raw, isRaw, lineEq⟩ := Source.exists_text_of_mem_contentLines isContent
  have isText : scene.source.line? position.line = some (Source.content raw) := by
    rw [onLine, Source.line?, isRaw, Option.map_some]
  constructor
  · intro plain
    have isName := nameBehindStar_commandName lineEq starred plain
    rw [stop_commandName starred] at inWord
    intro command isCommand
    have agrees : scene.source.Describes position command ↔ line.kind.BeginsWith command := by
      rw [kindEq, LineKind.beginsWith_iff starred isCommand]
      exact describes_of_nameBehindStar_iff isCommand isText isOffset isName behindStar inWord
    refine ⟨agrees, ?_⟩
    intro described name span isFault startEq
    obtain ⟨place, isWalked, word, wordKind, -, rfl⟩ := unknownCommand_mem_faults_iff.1 isFault
    have isPlace := Outline.line_mem_lines (List.mem_filter.1 isWalked).1
    obtain rfl : place.line = line := line_eq_of_start_eq isPlace isLine startEq
    -- an unknown command begins with none
    have begins := agrees.1 described
    rw [wordKind] at begins
    exact begins
  · rintro ⟨char, inWord, notInName⟩
    have isUnknown : line.kind = .unknown (commandName line.content) := by
      rw [kindEq, LineKind.ofContent_eq_unknown_iff starred, Option.eq_none_iff_forall_not_mem]
      intro command found
      have inName := Command.isNameChar_of_find? found char (by simpa [Fragment.text] using inWord)
      rw [notInName] at inName
      contradiction
    refine ⟨isUnknown, ?_, ?_⟩
    · rintro place isWalked rfl
      exact unknownCommand_mem_faults_iff.2 ⟨place, isWalked, _, isUnknown, rfl, rfl⟩
    · intro text isTextOf command isCommand
      rw [← onLine] at isTextOf
      exact describes_iff isCommand isTextOf isOffset

/-- A modifier in capitals before another one, and a condition written right behind the name
of its command. -/
theorem described_command_is_read_of_modifier :
    let scene := parse "*choice\n  *HIDE_REUSE *if (x) #b\n    c\n*if(x)"
    let option : Line := ⟨1, 2, ⟨10, "*HIDE_REUSE *if (x) #b".toList⟩,
      .option ⟨[.hideReuse, .showIf], some ⟨26, "(x)".toList⟩, ⟨31, ['b']⟩⟩⟩
    let joined : Line := ⟨3, 0, ⟨39, "*if(x)".toList⟩, .unknown ⟨40, "if(x)".toList⟩⟩
    (option ∈ scene.outline.lines ∧ option.content.chars.head? = some '*' ∧
      scene.source.offsetOf? ⟨1, 6⟩ = some 14 ∧ option.content.start < 14 ∧
      14 ≤ (commandName option.content).stop ∧
      (∀ char ∈ (commandName option.content).chars, isNameChar char = true) ∧
      ∃ command ∈ Command.table, command.name = "hide_reuse" ∧
        scene.source.Describes ⟨1, 6⟩ command ∧
        ∀ name span, ⟨.unknownCommand name, span⟩ ∈ scene.faults → span.start ≠ 10) ∧
    joined ∈ scene.outline.lines ∧ joined.content.chars.head? = some '*' ∧
      scene.source.offsetOf? ⟨3, 3⟩ = some 42 ∧ joined.content.start < 42 ∧
      42 ≤ (commandName joined.content).stop ∧
      (∃ char ∈ (commandName joined.content).chars, isNameChar char = false) ∧
      joined.kind = .unknown (commandName joined.content) := by
  intro scene option joined
  have isOption : option ∈ scene.outline.lines := by decide +kernel
  have isOffset : scene.source.offsetOf? ⟨1, 6⟩ = some 14 := by decide +kernel
  have isJoined : joined ∈ scene.outline.lines := by decide +kernel
  have isBehind : scene.source.offsetOf? ⟨3, 3⟩ = some 42 := by decide +kernel
  have plain : ∀ char ∈ (commandName option.content).chars, isNameChar char = true :=
    List.all_eq_true.1 (by decide +kernel)
  have notPlain : ∃ char ∈ (commandName joined.content).chars, isNameChar char = false :=
    ⟨'(', by decide, by decide⟩
  obtain ⟨command, isCommand, nameEq⟩ : ∃ command ∈ Command.table,
      command.name = "hide_reuse" := by decide +kernel
  have begins : option.kind.BeginsWith command := congrArg some nameEq.symm
  have read := (described_command_is_read scene option isOption rfl ⟨1, 6⟩ rfl 14 isOffset
    (by decide) (by decide)).1 plain command isCommand
  have described := read.1.2 begins
  refine ⟨⟨isOption, rfl, isOffset, by decide, by decide, plain, command, isCommand, nameEq,
    described, read.2 described⟩, isJoined, rfl, isBehind, by decide, by decide, notPlain, ?_⟩
  exact ((described_command_is_read scene joined isJoined rfl ⟨3, 3⟩ rfl 42 isBehind
    (by decide) (by decide)).2 notPlain).1

/-- An `*if` is described on a word that the reader takes for an unknown command. -/
theorem described_command_is_unknown :
    let scene := parse "*temp gold 1\n*if(gold > 0)\n  Hi."
    let line : Line := ⟨1, 0, ⟨13, "*if(gold > 0)".toList⟩, .unknown ⟨14, "if(gold".toList⟩⟩
    line ∈ scene.outline.lines ∧ line.content.chars.head? = some '*' ∧
      scene.source.offsetOf? ⟨1, 2⟩ = some 15 ∧ line.content.start < 15 ∧
      15 ≤ (commandName line.content).stop ∧
      (∃ command ∈ Command.table, command.name = "if" ∧
        scene.source.Describes ⟨1, 2⟩ command ∧ ¬ line.kind.BeginsWith command) ∧
      ⟨.unknownCommand "if(gold", ⟨13, 21⟩⟩ ∈ scene.faults := by
  intro scene line
  have isFault : ⟨.unknownCommand "if(gold", ⟨13, 21⟩⟩ ∈ scene.faults := by
    rw [mem_faults_iff]
    decide +kernel
  obtain ⟨command, isCommand, nameEq, helpEq⟩ : ∃ command ∈ Command.table,
      command.name = "if" ∧
        commandHover? scene.source ⟨1, 2⟩ = some ⟨command.help, ⟨⟨1, 0⟩, ⟨1, 3⟩⟩⟩ := by
    decide +kernel
  exact ⟨by decide +kernel, rfl, by decide +kernel, by decide, by decide,
    ⟨command, isCommand, nameEq, ⟨_, helpEq⟩, id⟩, isFault⟩

end Scene

end Gamebook
