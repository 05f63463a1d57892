import Gamebook.Script.Command
import Gamebook.Script.Delimiter
import Gamebook.Text.Source

/-!
# Lines of a scene

Every line that is not blank is a command, an option of a choice, a misspelt command or prose.
Which of them is decided by the line alone.  An option may follow reuse modifiers and a condition:

* `#text`
* `*hide_reuse` and an option
* `*if` or `*selectable_if`, a condition, and `#text`
-/

namespace Gamebook

structure OptionLine where
  modifiers : List Modifier
  condition : Option Fragment
  text : Fragment
deriving DecidableEq, Repr

/-- What a line says. -/
inductive LineKind where
  | command (command : Command) (arguments : Fragment)
  | option (option : OptionLine)
  | prose
  | unknown (name : Fragment)
deriving DecidableEq, Repr

/-- A line that is not blank. -/
structure Line where
  number : Nat
  /-- Columns before the content; a tab counts as `tabWidth` of them. -/
  indent : Nat
  /-- The line without indentation and trailing blanks. -/
  content : Fragment
  kind : LineKind
deriving DecidableEq, Repr

/-- The columns a tab stands for. -/
def tabWidth : Nat := 4

def isIndentation (char : Char) : Bool :=
  char == ' ' || char == '\t'

def columns : List Char → Nat
  | [] => 0
  | char :: rest => (if char == '\t' then tabWidth else 1) + columns rest

/-- The name of the command a content would start with. -/
def commandName (content : Fragment) : Fragment :=
  (content.drop 1).takeWhile (!isBlank ·)

def commandArguments (content : Fragment) : Fragment :=
  ((content.drop 1).dropWhile (!isBlank ·)).trimStart

theorem length_commandArguments_le (content : Fragment) :
    (commandArguments content).chars.length ≤ content.chars.length - 1 := by
  simp only [commandArguments, Fragment.trimStart, Fragment.dropWhile, Fragment.drop]
  have outer := (List.dropWhile_suffix isBlank
    (l := (content.chars.drop 1).dropWhile (!isBlank ·))).length_le
  have inner := (List.dropWhile_suffix (!isBlank ·) (l := content.chars.drop 1)).length_le
  simp only [List.length_drop] at inner
  omega

namespace OptionLine

/-- The option of a conditional modifier whose arguments are given. -/
def conditional? (modifier : Modifier) (arguments : Fragment) : Option OptionLine :=
  (optionMark? arguments.chars).bind fun mark =>
    let condition := (arguments.take mark).trimEnd
    if condition.isEmpty then none
    else some ⟨[modifier], some condition, arguments.drop (mark + 1)⟩

def modify (modifier : Modifier) (option : OptionLine) : OptionLine :=
  { option with modifiers := modifier :: option.modifiers }

def ofContent? (content : Fragment) : Option OptionLine :=
  match content with
  | ⟨start, '#' :: rest⟩ => some ⟨[], none, ⟨start + 1, rest⟩⟩
  | ⟨start, '*' :: rest⟩ =>
      match Modifier.find? (commandName ⟨start, '*' :: rest⟩).text with
      | none => none
      | some modifier =>
          if modifier.takesCondition then
            conditional? modifier (commandArguments ⟨start, '*' :: rest⟩)
          else
            (ofContent? (commandArguments ⟨start, '*' :: rest⟩)).map (modify modifier)
  | _ => none
termination_by content.chars.length
decreasing_by
  have := length_commandArguments_le ⟨start, '*' :: rest⟩
  simp at this ⊢
  omega

end OptionLine

namespace LineKind

def ofContent (content : Fragment) : LineKind :=
  match OptionLine.ofContent? content with
  | some line => .option line
  | none =>
      if content.chars.head? = some '*' then
        match Command.find? (commandName content).text with
        | some known => .command known (commandArguments content)
        | none => .unknown (commandName content)
      else
        .prose

def command? : LineKind → Option Command
  | command known _ => some known
  | _ => none

def isOption : LineKind → Bool
  | option _ => true
  | _ => false

def isRemark (kind : LineKind) : Bool :=
  kind.command?.any (·.isRemark)

end LineKind

namespace Line

/-- The line with the given number and text, or nothing for a blank one. -/
def ofFragment? (number : Nat) (text : Fragment) : Option Line :=
  let content := (text.dropWhile isIndentation).trimEnd
  if content.isEmpty then
    none
  else
    some ⟨number, columns (text.chars.takeWhile isIndentation), content, .ofContent content⟩

def command? (line : Line) : Option Command :=
  line.kind.command?

def isNamed (line : Line) (names : List String) : Bool :=
  line.command?.any (names.contains ·.name)

theorem isNamed_iff {line : Line} {names : List String} :
    line.isNamed names = true ↔ ∃ command ∈ line.command?, command.name ∈ names := by
  simp [isNamed, Option.any_eq_true]

def span (line : Line) : Span :=
  line.content.span

end Line

/-- The lines of a source that are not blank, from line `number` on. -/
def Source.linesFrom (number : Nat) : List Fragment → List Line
  | [] => []
  | text :: rest =>
      match Line.ofFragment? number (Source.content text) with
      | some line => line :: linesFrom (number + 1) rest
      | none => linesFrom (number + 1) rest

def Source.contentLines (source : Source) : List Line :=
  Source.linesFrom 0 source.lines

end Gamebook
