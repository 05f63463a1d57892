import Gamebook.Proofs.FindingPlacement
import Gamebook.Proofs.SourceLines

/-!
# Where the parts of a line stand

The kind of a line holds parts of its content: the arguments of a command, the
condition and the text of an option, the name of an unknown command.  Whatever
the arguments of a command mention is placed in them, for every way in which
arguments are read.
-/

namespace Gamebook

/-! ## Kinds of lines -/

theorem commandArguments_within (content : Fragment) :
    (commandArguments content).Within content :=
  ((Fragment.trimStart_within _).trans (Fragment.dropWhile_within _ _)).trans
    (content.drop_within 1)

theorem optionMarkFrom_lt {quoting : Quoting} {depth index : Nat} {text : List Char}
    (marked : optionMarkFrom quoting depth text = some index) :
    index < text.length := by
  induction text generalizing quoting depth index with
  | nil => simp [optionMarkFrom] at marked
  | cons char rest ih =>
      have later {next : Quoting} {deeper : Nat}
          (mapped : (optionMarkFrom next deeper rest).map (· + 1) = some index) :
          index < (char :: rest).length := by
        obtain ⟨earlier, earlierEq, rfl⟩ := Option.map_eq_some_iff.1 mapped
        simpa using ih earlierEq
      simp only [optionMarkFrom] at marked
      split at marked
      · exact later marked
      · split at marked
        · exact later marked
        · split at marked
          · exact later marked
          · split at marked
            · simp only [Option.some.injEq] at marked
              simp [← marked]
            · exact later marked

namespace OptionLine

/-- The parts of an option are parts of a fragment, and the number sign stands
between its condition and its text. -/
def Within (option : OptionLine) (content : Fragment) : Prop :=
  option.text.Within content ∧
    ∀ condition, option.condition = some condition →
      condition.Within content ∧ condition.Before option.text

theorem Within.mono {option : OptionLine} {inner outer : Fragment}
    (parts : option.Within inner) (within : inner.Within outer) :
    option.Within outer := by
  refine ⟨parts.1.trans within, ?_⟩
  intro condition conditionEq
  obtain ⟨conditionWithin, before⟩ := parts.2 condition conditionEq
  exact ⟨conditionWithin.trans within, before⟩

theorem conditional?_within {modifier : Modifier} {arguments : Fragment}
    {option : OptionLine} (isOption : conditional? modifier arguments = some option) :
    option.Within arguments := by
  obtain ⟨mark, markEq, optionEq⟩ := Option.bind_eq_some_iff.1 isOption
  simp only at optionEq
  split at optionEq
  · simp at optionEq
  · simp only [Option.some.injEq] at optionEq
    subst optionEq
    refine ⟨arguments.drop_within (mark + 1), ?_⟩
    intro condition conditionEq
    obtain rfl : (arguments.take mark).trimEnd = condition := by
      simpa using conditionEq
    have trimmed := (arguments.take mark).trimEnd_within
    refine ⟨trimmed.trans (arguments.take_within mark), ?_⟩
    intro _
    have markGap : (arguments.take mark).stop < (arguments.drop (mark + 1)).start :=
      Fragment.stop_take_lt_start_drop (Nat.lt_succ_self mark) (optionMarkFrom_lt markEq)
    have bounds := trimmed.bounds
    simp only
    omega

theorem ofContent?_within {content : Fragment} {option : OptionLine}
    (isOption : ofContent? content = some option) : option.Within content := by
  fun_induction ofContent? content generalizing option with
  | case1 start rest =>
      simp only [Option.some.injEq] at isOption
      subst isOption
      exact ⟨Fragment.within_cons '#' rest start, by simp⟩
  | case2 start rest notModifier => simp at isOption
  | case3 start rest modifier isModifier takesCondition =>
      exact (conditional?_within isOption).mono (commandArguments_within _)
  | case4 start rest modifier isModifier noCondition ih =>
      obtain ⟨inner, innerEq, rfl⟩ := Option.map_eq_some_iff.1 isOption
      exact (ih innerEq).mono (commandArguments_within _)
  | case5 content notOption notCommand => simp at isOption

end OptionLine

namespace Line

/-- The command of the line, if it has one, is one of the language. -/
def Known (line : Line) : Prop :=
  ∀ command ∈ line.command?, command ∈ Command.table

/-- A test that the commands of some names pass is a test of the names. -/
theorem Known.any_eq {line : Line} {names : List String} {test : Command → Bool}
    (known : line.Known)
    (each : ∀ command ∈ Command.table, test command = names.contains command.name) :
    line.command?.any test = line.isNamed names := by
  unfold isNamed
  cases commandEq : line.command? with
  | none => rfl
  | some command => exact each command (known command commandEq)

end Line

theorem LineKind.ofContent_command {content arguments : Fragment} {command : Command}
    (kindEq : LineKind.ofContent content = .command command arguments) :
    arguments.Within content := by
  unfold LineKind.ofContent at kindEq
  split at kindEq
  · simp at kindEq
  · split at kindEq
    · split at kindEq
      · simp only [LineKind.command.injEq] at kindEq
        obtain ⟨_, rfl⟩ := kindEq
        exact commandArguments_within content
      · simp at kindEq
    · simp at kindEq

theorem LineKind.known_ofContent {content arguments : Fragment} {command : Command}
    (kindEq : LineKind.ofContent content = .command command arguments) :
    command ∈ Command.table := by
  unfold LineKind.ofContent at kindEq
  split at kindEq
  · simp at kindEq
  · split at kindEq
    · split at kindEq
      · rename_i foundEq
        obtain ⟨rfl, _⟩ := LineKind.command.inj kindEq
        exact List.mem_of_find?_eq_some foundEq
      · simp at kindEq
    · simp at kindEq

theorem LineKind.ofContent_option {content : Fragment} {option : OptionLine}
    (kindEq : LineKind.ofContent content = .option option) :
    option.Within content := by
  unfold LineKind.ofContent at kindEq
  split at kindEq
  · rename_i optionEq
    simp only [LineKind.option.injEq] at kindEq
    subst kindEq
    exact OptionLine.ofContent?_within optionEq
  · split at kindEq
    · split at kindEq <;> simp at kindEq
    · simp at kindEq

/-- An unknown command reaches from its star to the end of its name. -/
theorem LineKind.ofContent_unknown {content name : Fragment}
    (kindEq : LineKind.ofContent content = .unknown name) :
    ∃ part : Fragment, part.Within content ∧
      part.span = ⟨content.start, name.stop⟩ := by
  unfold LineKind.ofContent at kindEq
  split at kindEq
  · simp at kindEq
  · split at kindEq
    · rename_i startsWithStar
      split at kindEq
      · simp at kindEq
      · simp only [LineKind.unknown.injEq] at kindEq
        subst kindEq
        obtain ⟨rest, charsEq⟩ := List.head?_eq_some_iff.1 startsWithStar
        refine ⟨⟨content.start, '*' :: rest.takeWhile (!isBlank ·)⟩, ?_, ?_⟩
        · exact ⟨[], rest.dropWhile (!isBlank ·), by simp [charsEq], by simp⟩
        · simp only [Fragment.span, Fragment.stop, commandName, Fragment.takeWhile,
            Fragment.drop, charsEq, List.take_succ_cons, List.take_zero,
            List.drop_succ_cons, List.drop_zero, byteSize_cons, byteSize_nil]
          congr 1
          omega
    · simp at kindEq

/-! ## Arguments -/

/-- The role is one of names; only words that `declares` tells of declare a label. -/
structure Role.OfNames (declares : Prop) (role : Role) : Prop where
  notText : role ≠ .text
  ofLabel : role.kind = .label → declares

theorem Role.OfNames.mono {declares allows : Prop} {role : Role} (named : role.OfNames declares)
    (implies : declares → allows) : role.OfNames allows :=
  ⟨named.notText, fun isLabel => implies (named.ofLabel isLabel)⟩

/-- The ways in which words of a line are read: for nothing, as a name, as names,
as an expression or prose, or a first word apart from what stands behind it. -/
inductive Reading (declares : Prop) (number : Nat) : Fragment → List Finding → Prop
  | nothing (place : Fragment) : Reading declares number place []
  | name {role : Role} (named : role.OfNames declares) (word : Fragment) :
      Reading declares number word (nameFindings role number word)
  | names {role : Role} (named : role.OfNames declares) (place : Fragment) :
      Reading declares number place (place.words.flatMap (nameFindings role number))
  | mention {role : Role} (named : role.OfNames declares) {word : Fragment}
      (notEmpty : word.chars ≠ []) :
      Reading declares number word [.mention role number word]
  | expression (place : Fragment) :
      Reading declares number place (expressionFindings number place)
  | prose (place : Fragment) : Reading declares number place (proseFindings number true place)
  | split {place word rest : Fragment} {first second : List Finding}
      (splitEq : place.splitWord? = some (word, rest))
      (ofWord : Reading declares number word first)
      (ofRest : Reading declares number rest second) :
      Reading declares number place (first ++ second)

namespace Reading

variable {declares : Prop} {number : Nat} {place word rest : Fragment} {findings : List Finding}

theorem firstWord (splitEq : place.splitWord? = some (word, rest))
    (ofWord : Reading declares number word findings) : Reading declares number place findings := by
  simpa using split splitEq ofWord (.nothing rest)

theorem sceneLabel (declares : Prop) (scene place : Fragment) :
    Reading declares number place (sceneLabelFindings number scene place.splitWord?) := by
  cases splitEq : place.splitWord? with
  | none => exact .nothing place
  | some parts =>
      refine .split splitEq ?_ (.expression _)
      split
      · exact .nothing _
      · exact .name ⟨by simp, by simp [Role.kind]⟩ _

/-- All arguments are read in one of these ways, and those of a label declare one. -/
theorem ofArguments (number : Nat) (arguments : Fragment) (form : Arguments) :
    Reading (form = .label) number arguments (argumentFindings number arguments form) := by
  cases form with
  | plain => exact .nothing arguments
  | expression => exact .expression arguments
  | prose => exact .prose arguments
  | parameters => exact .names ⟨by simp, by simp [Role.kind]⟩ arguments
  | declaration scope =>
      rw [argumentFindings]
      split
      · exact .nothing arguments
      · refine .split (by assumption) (.name ?_ _) (.expression _)
        cases scope <;> exact ⟨by simp [declarationRole], by simp [declarationRole, Role.kind]⟩
  | assignment =>
      rw [argumentFindings]
      split
      · exact .nothing arguments
      · rename_i word value splitEq
        split
        · exact .split splitEq
            (.mention ⟨by simp, by simp [Role.kind]⟩ (Fragment.splitWord?_spec splitEq).2.1)
            (.expression value)
        · exact .expression arguments
  | jump =>
      rw [argumentFindings]
      split
      · exact .nothing arguments
      · refine .split (by assumption) ?_ (.expression _)
        split
        · exact .expression _
        · exact .name ⟨by simp, by simp [Role.kind]⟩ _
  | sceneJump =>
      rw [argumentFindings]
      split
      · exact .nothing arguments
      · rename_i scene behind splitEq
        exact .split splitEq
          (.mention ⟨by simp, by simp [Role.kind]⟩ (Fragment.splitWord?_spec splitEq).2.1)
          (.sceneLabel _ scene behind)
  | label =>
      rw [argumentFindings]
      split
      · exact .nothing arguments
      · exact .firstWord (by assumption) (.name ⟨by simp, fun _ => rfl⟩ _)
  | achievement =>
      rw [argumentFindings]
      split
      · exact .nothing arguments
      · exact .firstWord (by assumption) (.name ⟨by simp, by simp [Role.kind]⟩ _)
  | award =>
      rw [argumentFindings]
      split
      · exact .nothing arguments
      · exact .firstWord (by assumption) (.name ⟨by simp, by simp [Role.kind]⟩ _)

theorem ofChartRow (declares : Prop) (number : Nat) (row : Fragment) :
    Reading declares number row (chartRowFindings number row) := by
  unfold chartRowFindings
  split
  · exact .nothing row
  · exact .split (by assumption) (.expression _) (.prose _)

end Reading

theorem placed_name (number : Nat) (role : Role) (word : Fragment) :
    Placed number word (nameFindings role number word) := by
  unfold nameFindings
  split
  · rename_i isWord
    apply Placed.mention number role (Fragment.Within.refl word)
    intro isNil
    simp [isNil, isName] at isWord
  · exact .wrong number _ (Fragment.Within.refl word)

/-- Whatever is read in words is placed in them. -/
theorem Reading.placed {declares : Prop} {number : Nat} {place : Fragment}
    {findings : List Finding} (reading : Reading declares number place findings) :
    Placed number place findings := by
  induction reading with
  | nothing place => exact .nil number place
  | name named word => exact placed_name number _ word
  | names named place =>
      apply Placed.flatMap id
      · intro word _
        exact placed_name number _ word
      · intro word isWord
        exact (Fragment.words_spec isWord).1
      · exact place.words_pairwise
  | mention named notEmpty => exact .mention number _ (Fragment.Within.refl _) notEmpty
  | expression place => exact placed_expression number place
  | prose place => exact placed_prose number true place
  | split splitEq _ _ wordIh restIh =>
      obtain ⟨wordWithin, _, restWithin, before⟩ := Fragment.splitWord?_spec splitEq
      exact .append wordIh restIh wordWithin restWithin before

end Gamebook
