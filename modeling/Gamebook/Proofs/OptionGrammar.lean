import Gamebook.Proofs.DelimiterSearch
import Gamebook.Proofs.ShiftedLines
import Mathlib.Data.List.TakeWhile

/-!
# The grammar of option lines

An option is its text behind a number sign.  A star with a reuse modifier may stand
before an option, and a star with a conditional modifier before a condition and the
number sign.  `OptionLine.Written` states these rules for contents at their byte
offsets; the reading of a line accepts exactly what they derive, with the same parts
(`LineKind.ofContent_eq_option_iff`).
-/

namespace Gamebook

/-! ## The grammar -/

/-- The content is a star with a name and, behind blanks, the arguments. -/
inductive Starred : Fragment → String → Fragment → Prop
  | intro {start : Nat} {name : String} {blanks arguments : List Char}
      (separated : blanks ≠ []) (areBlank : ∀ char ∈ blanks, isBlank char = true) :
      Starred ⟨start, '*' :: (name.toList ++ (blanks ++ arguments))⟩ name
        ⟨start + 1 + byteSize name.toList + byteSize blanks, arguments⟩

namespace OptionLine

/-- The names of the modifiers that an option follows. -/
def reuseNames : List String :=
  ["disable_reuse", "hide_reuse", "allow_reuse"]

/-- The names of the modifiers that a condition follows. -/
def conditionNames : List String :=
  ["if", "selectable_if"]

/-- What may stand between a conditional modifier and the number sign: no number sign
before that one is outside string literals and parentheses. -/
structure IsCondition (text : List Char) : Prop where
  begins : ∀ char ∈ text.head?, isBlank char = false
  notBlank : trimEndChars isBlank text ≠ []
  outside : Outside 0 text
  noMark : ∀ front back, text = front ++ '#' :: back → ¬ Outside 0 front

/-- The content is an option with the given names of modifiers, condition and text. -/
inductive Written : Fragment → List String → Option Fragment → Fragment → Prop
  | plain (start : Nat) (text : List Char) :
      Written ⟨start, '#' :: text⟩ [] none ⟨start + 1, text⟩
  | reused {content option : Fragment} {name : String} {names : List String}
      {condition : Option Fragment} {text : Fragment}
      (starred : Starred content name option) (isReuse : name.toLower ∈ reuseNames)
      (written : Written option names condition text) :
      Written content (name.toLower :: names) condition text
  | conditional {content : Fragment} {name : String} {start : Nat} {condition text : List Char}
      (starred : Starred content name ⟨start, condition ++ '#' :: text⟩)
      (isConditional : name.toLower ∈ conditionNames) (isCondition : IsCondition condition) :
      Written content [name.toLower] (some ⟨start, trimEndChars isBlank condition⟩)
        ⟨start + byteSize condition + 1, text⟩

end OptionLine

/-! ## Names of modifiers -/

namespace Modifier

theorem find?_all_name (modifier : Modifier) :
    all.find? (·.name == modifier.name) = some modifier := by
  cases modifier <;> decide

theorem name_injective : Function.Injective name := by
  intro first second sameName
  have found := find?_all_name first
  rw [sameName, find?_all_name second] at found
  exact (Option.some.inj found).symm

theorem find?_eq_some_iff {name : String} {modifier : Modifier} :
    find? name = some modifier ↔ name.toLower = modifier.name := by
  constructor
  · intro found
    have sameName := List.find?_some found
    exact (beq_iff_eq.1 sameName).symm
  · intro spelt
    rw [find?, spelt, find?_all_name]

theorem takesCondition_iff (modifier : Modifier) :
    (modifier.takesCondition = true ↔ modifier.name ∈ OptionLine.conditionNames) ∧
      (modifier.takesCondition = false ↔ modifier.name ∈ OptionLine.reuseNames) := by
  cases modifier <;> decide

theorem exists_name_eq {name : String}
    (isName : name ∈ OptionLine.conditionNames ++ OptionLine.reuseNames) :
    ∃ modifier, name = Modifier.name modifier := by
  have covered : ∀ name ∈ OptionLine.conditionNames ++ OptionLine.reuseNames,
      name ∈ all.map Modifier.name := by decide
  obtain ⟨modifier, _, rfl⟩ := List.mem_map.1 (covered name isName)
  exact ⟨modifier, rfl⟩

theorem not_isBlank_of_mem_name {modifier : Modifier} {char : Char}
    (inName : char ∈ modifier.name.toList) : isBlank char = false := by
  have noBlank : modifier.name.toList.all (!isBlank ·) = true := by
    cases modifier <;> decide
  simpa using List.all_eq_true.1 noBlank char inName

end Modifier

theorem toLower_of_isBlank {char : Char} (blank : isBlank char = true) : char.toLower = char := by
  unfold Char.toLower
  rw [dif_neg]
  rintro ⟨low, high⟩
  have low : 65 ≤ char.toNat := low
  have high : char.toNat ≤ 90 := high
  simp only [isBlank, Bool.or_eq_true, Bool.and_eq_true, decide_eq_true_eq, beq_iff_eq] at blank
  omega

theorem not_isBlank_of_toLower_eq {name : String} {modifier : Modifier}
    (spelt : name.toLower = modifier.name) : ∀ char ∈ name.toList, isBlank char = false := by
  intro char inName
  by_contra blank
  have blank : isBlank char = true := by simpa using blank
  have inLower : char.toLower ∈ modifier.name.toList := by
    rw [← spelt]
    change char.toLower ∈ (name.map Char.toLower).toList
    rw [String.toList_map]
    exact List.mem_map_of_mem inName
  rw [toLower_of_isBlank blank] at inLower
  rw [Modifier.not_isBlank_of_mem_name inLower] at blank
  contradiction

/-! ## Cutting a starred content -/

namespace Starred

variable {content arguments : Fragment} {name : String}

theorem chars_eq (starred : Starred content name arguments) :
    ∃ rest, content.chars = '*' :: rest := by
  cases starred
  exact ⟨_, rfl⟩

/-- The parts of a starred content are cut out where they stand. -/
theorem parts (starred : Starred content name arguments)
    (nameNotBlank : ∀ char ∈ name.toList, isBlank char = false)
    (begins : ∀ char ∈ arguments.chars.head?, isBlank char = false) :
    (commandName content).text = name ∧ commandArguments content = arguments := by
  cases starred with
  | @intro start name blanks arguments separated areBlank =>
      have nameEnds : ∀ char ∈ (blanks ++ arguments).head?, (!isBlank char) = false := by
        obtain ⟨blank, others, rfl⟩ := List.exists_cons_of_ne_nil separated
        simpa using areBlank blank List.mem_cons_self
      have nameTaken : name.toList.takeWhile (!isBlank ·) = name.toList := by
        simpa [List.takeWhile_eq_self_iff] using nameNotBlank
      have nameDropped : name.toList.dropWhile (!isBlank ·) = [] := by
        simpa [List.dropWhile_eq_nil_iff] using nameNotBlank
      have blanksTaken : blanks.takeWhile isBlank = blanks :=
        List.takeWhile_eq_self_iff.2 areBlank
      have blanksDropped : blanks.dropWhile isBlank = [] :=
        List.dropWhile_eq_nil_iff.2 areBlank
      have begins : ∀ char ∈ arguments.head?, isBlank char = false := begins
      have starSize : '*'.utf8Size = 1 := rfl
      constructor
      · simp [commandName, Fragment.text, Fragment.takeWhile, Fragment.drop,
          takeWhile_append_of_head? nameEnds, nameTaken]
      · simp [commandArguments, Fragment.trimStart, Fragment.dropWhile, Fragment.drop,
          takeWhile_append_of_head? nameEnds, dropWhile_append_of_head? nameEnds, nameTaken,
          nameDropped, takeWhile_append_of_head? begins, dropWhile_append_of_head? begins,
          blanksTaken, blanksDropped, starSize]

/-- Arguments that are not empty stand behind blanks. -/
theorem of_arguments {start : Nat} {rest : List Char}
    (notEmpty : (commandArguments ⟨start, '*' :: rest⟩).chars ≠ []) :
    Starred ⟨start, '*' :: rest⟩ (commandName ⟨start, '*' :: rest⟩).text
      (commandArguments ⟨start, '*' :: rest⟩) := by
  let name := rest.takeWhile (!isBlank ·)
  let behind := rest.dropWhile (!isBlank ·)
  have restEq : name ++ (behind.takeWhile isBlank ++ behind.dropWhile isBlank) = rest := by
    rw [List.takeWhile_append_dropWhile, List.takeWhile_append_dropWhile]
  have separated : behind.takeWhile isBlank ≠ [] := by
    obtain ⟨char, later, behindEq⟩ := List.exists_cons_of_ne_nil
      ((Fragment.trimStart_within _).notEmpty notEmpty)
    have behindEq : behind = char :: later := behindEq
    have blank : isBlank char = true := by simpa using head_of_dropWhile_eq_cons behindEq
    simp [behindEq, blank]
  have starred : Starred
      ⟨start, '*' :: ((String.ofList name).toList ++
        (behind.takeWhile isBlank ++ behind.dropWhile isBlank))⟩ (String.ofList name) _ :=
    .intro separated fun _ => List.mem_takeWhile_imp
  rw [String.toList_ofList, restEq] at starred
  exact starred

end Starred

theorem not_isBlank_of_head?_commandArguments (content : Fragment) :
    ∀ char ∈ (commandArguments content).chars.head?, isBlank char = false := by
  intro char isHead
  have notBlank := List.head?_dropWhile_not isBlank
    ((content.drop 1).dropWhile (!isBlank ·)).chars
  have headEq : (((content.drop 1).dropWhile (!isBlank ·)).chars.dropWhile isBlank).head? =
      some char := isHead
  simpa [headEq] using notBlank

/-! ## The mark behind a condition -/

/-- The mark of an option is the first number sign outside literals and parentheses. -/
theorem optionMark?_eq_some_iff {text : List Char} {mark : Nat} :
    optionMark? text = some mark ↔
      ∃ front back, text = front ++ '#' :: back ∧ front.length = mark ∧ Outside 0 front ∧
        ∀ earlier later, front = earlier ++ '#' :: later → ¬ Outside 0 earlier := by
  have stops (front : List Char) (char : Char) :
      StopsBehind isOptionMark ⟨.outside, 0⟩ front char ↔ char = '#' ∧ Outside 0 front := by
    rw [outside_iff, StopsBehind, isOptionMark, Bool.and_eq_true, beq_iff_eq, beq_iff_eq]
    constructor
    · rintro ⟨isOutside, isMark, isZero⟩
      exact ⟨isMark, congrArg₂ Reader.mk isOutside isZero⟩
    · rintro ⟨isMark, behindEq⟩
      rw [behindEq]
      exact ⟨rfl, isMark, rfl⟩
  rw [optionMark?_eq, findDelimiter_eq_some_iff]
  constructor
  · rintro ⟨front, char, back, rfl, lengthEq, stopped, first⟩
    obtain ⟨rfl, isOutside⟩ := (stops front char).1 stopped
    refine ⟨front, back, rfl, lengthEq, isOutside, ?_⟩
    intro earlier later frontEq earlierOutside
    exact first earlier '#' later frontEq ((stops earlier '#').2 ⟨rfl, earlierOutside⟩)
  · rintro ⟨front, back, rfl, lengthEq, isOutside, first⟩
    refine ⟨front, '#', back, rfl, lengthEq, (stops front '#').2 ⟨rfl, isOutside⟩, ?_⟩
    intro earlier char later frontEq stopped
    obtain ⟨rfl, earlierOutside⟩ := (stops earlier char).1 stopped
    exact first earlier later frontEq earlierOutside

namespace OptionLine

theorem conditional?_of_mark {start : Nat} {condition text : List Char} (modifier : Modifier)
    (found : optionMark? (condition ++ '#' :: text) = some condition.length) :
    conditional? modifier ⟨start, condition ++ '#' :: text⟩ =
      if trimEndChars isBlank condition = [] then none
      else some ⟨[modifier], some ⟨start, trimEndChars isBlank condition⟩,
        ⟨start + byteSize condition + 1, text⟩⟩ := by
  have conditionTaken : Fragment.take ⟨start, condition ++ '#' :: text⟩ condition.length =
      ⟨start, condition⟩ := by
    simp [Fragment.take]
  have textDropped : Fragment.drop ⟨start, condition ++ '#' :: text⟩ (condition.length + 1) =
      ⟨start + byteSize condition + 1, text⟩ := by
    have markSize : '#'.utf8Size = 1 := rfl
    simp [Fragment.drop, List.take_length_add_append, markSize, Nat.add_assoc]
  rw [conditional?, found, Option.bind_some, conditionTaken, textDropped]
  simp only [Fragment.isEmpty, Fragment.trimEnd, List.isEmpty_iff]

theorem conditional?_eq_some_iff {modifier : Modifier} {arguments : Fragment}
    {option : OptionLine} (begins : ∀ char ∈ arguments.chars.head?, isBlank char = false) :
    conditional? modifier arguments = some option ↔
      ∃ condition text, arguments.chars = condition ++ '#' :: text ∧ IsCondition condition ∧
        option = ⟨[modifier], some ⟨arguments.start, trimEndChars isBlank condition⟩,
          ⟨arguments.start + byteSize condition + 1, text⟩⟩ := by
  obtain ⟨start, chars⟩ := arguments
  constructor
  · intro isOption
    obtain ⟨mark, found, _⟩ := Option.bind_eq_some_iff.1 isOption
    obtain ⟨condition, text, rfl, rfl, isOutside, first⟩ := optionMark?_eq_some_iff.1 found
    rw [conditional?_of_mark modifier found] at isOption
    split at isOption
    · contradiction
    · rename_i notBlank
      refine ⟨condition, text, rfl, ⟨?_, notBlank, isOutside, first⟩, ?_⟩
      · intro char isHead
        exact begins char (by simp [Option.mem_def.1 isHead])
      · exact (Option.some.inj isOption).symm
  · rintro ⟨condition, text, charsEq, isCondition, rfl⟩
    obtain rfl : chars = condition ++ '#' :: text := charsEq
    have found : optionMark? (condition ++ '#' :: text) = some condition.length :=
      optionMark?_eq_some_iff.2
        ⟨condition, text, rfl, rfl, isCondition.outside, isCondition.noMark⟩
    rw [conditional?_of_mark modifier found, if_neg isCondition.notBlank]

/-! ## Reading and grammar agree -/

theorem Written.begins {content text : Fragment} {names : List String}
    {condition : Option Fragment} (written : Written content names condition text) :
    ∃ char rest, content.chars = char :: rest ∧ isBlank char = false := by
  cases written with
  | plain start text => exact ⟨'#', text, rfl, by decide⟩
  | reused starred =>
      obtain ⟨rest, charsEq⟩ := starred.chars_eq
      exact ⟨'*', rest, charsEq, by decide⟩
  | conditional starred =>
      obtain ⟨rest, charsEq⟩ := starred.chars_eq
      exact ⟨'*', rest, charsEq, by decide⟩

theorem written_of_ofContent? {content : Fragment} {option : OptionLine}
    (isOption : ofContent? content = some option) :
    Written content (option.modifiers.map Modifier.name) option.condition option.text := by
  fun_induction ofContent? content generalizing option with
  | case1 start rest =>
      cases isOption
      exact .plain start rest
  | case2 start rest notModifier => cases isOption
  | case3 start rest modifier isModifier takesCondition =>
      obtain ⟨condition, text, charsEq, isCondition, rfl⟩ :=
        (conditional?_eq_some_iff (not_isBlank_of_head?_commandArguments _)).1 isOption
      have argumentsEq : commandArguments ⟨start, '*' :: rest⟩ = ⟨_, condition ++ '#' :: text⟩ :=
        congrArg (Fragment.mk _) charsEq
      have starred := @Starred.of_arguments start rest (by simp [charsEq])
      rw [argumentsEq] at starred
      have spelt := Modifier.find?_eq_some_iff.1 isModifier
      have isConditional := modifier.takesCondition_iff.1.1 takesCondition
      rw [← spelt] at isConditional
      rw [List.map_singleton, ← spelt]
      exact .conditional starred isConditional isCondition
  | case4 start rest modifier isModifier unconditional ih =>
      obtain ⟨inner, isInner, rfl⟩ := Option.map_eq_some_iff.1 isOption
      have written := ih isInner
      obtain ⟨char, later, charsEq, _⟩ := written.begins
      have spelt := Modifier.find?_eq_some_iff.1 isModifier
      have isReuse := modifier.takesCondition_iff.2.1 (by simpa using unconditional)
      rw [← spelt] at isReuse
      rw [modify, List.map_cons, ← spelt]
      exact .reused (.of_arguments (by simp [charsEq])) isReuse written
  | case5 content notOption notStarred => cases isOption

theorem ofContent?_of_starred {content arguments : Fragment} {name : String}
    {modifier : Modifier} (starred : Starred content name arguments)
    (spelt : name.toLower = modifier.name)
    (begins : ∀ char ∈ arguments.chars.head?, isBlank char = false) :
    ofContent? content =
      if modifier.takesCondition then conditional? modifier arguments
      else (ofContent? arguments).map (modify modifier) := by
  obtain ⟨rest, charsEq⟩ := starred.chars_eq
  -- a name that spells a modifier has no blank in it, so it is read as a whole
  obtain ⟨nameEq, argumentsEq⟩ := starred.parts (not_isBlank_of_toLower_eq spelt) begins
  rw [ofContent?_of_star charsEq, nameEq, argumentsEq, Modifier.find?_eq_some_iff.2 spelt,
    Option.bind_some]

theorem ofContent?_of_written {content text : Fragment} {names : List String}
    {condition : Option Fragment} (written : Written content names condition text) :
    ∃ option, ofContent? content = some option ∧ option.modifiers.map Modifier.name = names ∧
      option.condition = condition ∧ option.text = text := by
  induction written with
  | plain start text =>
      exact ⟨⟨[], none, ⟨start + 1, text⟩⟩, by simp [ofContent?], rfl, rfl, rfl⟩
  | reused starred isReuse written ih =>
      obtain ⟨option, isOption, rfl, rfl, rfl⟩ := ih
      obtain ⟨modifier, spelt⟩ := Modifier.exists_name_eq (List.mem_append_right _ isReuse)
      have unconditional : modifier.takesCondition = false :=
        modifier.takesCondition_iff.2.2 (spelt ▸ isReuse)
      obtain ⟨char, later, charsEq, notBlank⟩ := written.begins
      have read := ofContent?_of_starred starred spelt (by simp [charsEq, notBlank])
      rw [unconditional, if_neg (by decide), isOption] at read
      exact ⟨modify modifier option, read, by rw [spelt]; rfl, rfl, rfl⟩
  | @conditional content name start condition text starred isConditional isCondition =>
      obtain ⟨modifier, spelt⟩ := Modifier.exists_name_eq (List.mem_append_left _ isConditional)
      have takesCondition : modifier.takesCondition = true :=
        modifier.takesCondition_iff.1.2 (spelt ▸ isConditional)
      have begins : ∀ char ∈ (condition ++ '#' :: text).head?, isBlank char = false := by
        cases condition with
        | nil => exact absurd rfl isCondition.notBlank
        | cons first later => simpa using isCondition.begins first rfl
      have read := ofContent?_of_starred starred spelt begins
      rw [takesCondition, if_pos rfl] at read
      rw [(conditional?_eq_some_iff begins).2 ⟨condition, text, rfl, isCondition, rfl⟩] at read
      exact ⟨_, read, by rw [spelt]; rfl, rfl, rfl⟩

end OptionLine

theorem LineKind.ofContent_eq_option {content : Fragment} {line : OptionLine} :
    ofContent content = .option line ↔ OptionLine.ofContent? content = some line := by
  unfold ofContent
  cases OptionLine.ofContent? content with
  | some other => simp
  | none =>
      simp only [reduceCtorEq, iff_false]
      split
      · split <;> simp
      · simp

/-- A line is an option exactly if the grammar derives it, and it then has the modifiers,
the condition and the text that the grammar gives. -/
theorem LineKind.ofContent_eq_option_iff (content : Fragment) (line : OptionLine) :
    ofContent content = .option line ↔
      OptionLine.Written content (line.modifiers.map Modifier.name) line.condition line.text := by
  rw [ofContent_eq_option]
  constructor
  · exact OptionLine.written_of_ofContent?
  · intro written
    obtain ⟨option, isOption, namesEq, conditionEq, textEq⟩ :=
      OptionLine.ofContent?_of_written written
    have modifiersEq := List.map_injective_iff.2 Modifier.name_injective namesEq
    cases option
    simp only at modifiersEq conditionEq textEq
    rw [isOption, modifiersEq, conditionEq, textEq]

end Gamebook
