import Gamebook.Script.Mention
import Gamebook.Script.Outline

/-!
# Scenes

A scene is read in three steps: its lines are told apart, nested by indentation, and walked with
what surrounds them, which gives the occurrences and faults.  Reading never fails.
-/

namespace Gamebook

/-- Whether options may stand at a place, and in which kind of choice. -/
inductive Surroundings where
  | outside
  | inChoice (fake : Bool)
deriving DecidableEq, Repr

namespace Surroundings

def admitsOptions : Surroundings → Bool
  | outside => false
  | inChoice _ => true

end Surroundings

def Fragment.words (fragment : Fragment) : List Fragment :=
  (fragment.split isBlank).filter (!·.isEmpty)

/-- A word in the place of a name: the mention of that name, or a fault. -/
def nameFindings (role : Role) (line : Nat) (word : Fragment) : List Finding :=
  if isName word.chars then [.mention role line word]
  else [.wrong (.invalidName word.text) word.span]

/-- The title of an achievement: what follows its visibility and its points, single spaced. -/
def achievementTitle (words : Fragment) : String :=
  String.ofList ((blankSeparated words.chars |>.drop 2).intersperse [' ']).flatten

def declarationRole (scope : Scope) (value : Fragment) : Role :=
  match scope with
  | .game => .globalVariable value.text
  | .scene => .localVariable (some value.text)

/-- Whether a word is an expression that computes a name. -/
def isComputed (word : Fragment) : Bool :=
  word.chars.head? == some '{'

/-- What the label of a scene jump mentions, and the values handed over. -/
def sceneLabelFindings (line : Nat) (scene : Fragment) : Option (Fragment × Fragment) → List Finding
  | none => []
  | some (label, values) =>
      (if isComputed label then []
        else nameFindings (.sceneLabelReference scene.text) line label) ++
        expressionFindings line values

/-- What the arguments of a command mention, by the way they are read. -/
def argumentFindings (line : Nat) (arguments : Fragment) : Arguments → List Finding
  | .plain => []
  | .expression => expressionFindings line arguments
  | .prose => proseFindings line true arguments
  | .parameters => arguments.words.flatMap (nameFindings (.localVariable none) line)
  | .declaration scope =>
      match arguments.splitWord? with
      | none => []
      | some (word, value) =>
          nameFindings (declarationRole scope value) line word ++ expressionFindings line value
  | .assignment =>
      match arguments.splitWord? with
      | none => []
      | some (word, value) =>
          if isName word.chars then
            .mention .variableWrite line word :: expressionFindings line value
          else
            expressionFindings line arguments
  | .jump =>
      match arguments.splitWord? with
      | none => []
      | some (word, values) =>
          (if isComputed word then expressionFindings line word
            else nameFindings .labelReference line word) ++ expressionFindings line values
  | .sceneJump =>
      match arguments.splitWord? with
      | none => []
      | some (scene, rest) =>
          .mention (.sceneReference false) line scene ::
            sceneLabelFindings line scene rest.splitWord?
  | .label =>
      match arguments.splitWord? with
      | none => []
      | some (word, _) => nameFindings .label line word
  | .achievement =>
      match arguments.splitWord? with
      | none => []
      | some (word, rest) => nameFindings (.achievement (achievementTitle rest)) line word
  | .award =>
      match arguments.splitWord? with
      | none => []
      | some (word, _) => nameFindings .achievementReference line word

/-- The scene a row names: its first word that is not a mark of a paid scene. -/
def sceneOfRow? (row : Fragment) : Option Fragment :=
  row.words.find? fun word => word.chars.head? != some '$'

def sceneRowFindings (listed : Bool) (rows : List Line) : List Finding :=
  rows.flatMap fun row =>
    (sceneOfRow? row.content).toList.map (.mention (.sceneReference listed) row.number)

def isChartRow (word : Fragment) : Bool :=
  ["text", "percent", "opposed_pair"].contains word.text.toLower

/-- What the variable and the caption of a chart row mention. -/
def chartRowFindings (line : Nat) (row : Fragment) : List Finding :=
  match row.splitWord? with
  | none => []
  | some (subject, caption) =>
      expressionFindings line subject ++ proseFindings line true caption

/-- What the rows of a chart of statistics mention; the names of an opposed pair stand under
theirs. -/
def chartFindings : Outline → List Finding
  | .nil => []
  | .entry row nested rest =>
      (match row.content.splitWord? with
        | none => []
        | some (kind, caption) =>
            if isChartRow kind then
              chartRowFindings row.number caption ++
                nested.roots.flatMap fun name => proseFindings name.number true name.content
            else
              []) ++
        chartFindings rest

def unexpectedFindings (nested : Outline) : List Finding :=
  nested.first?.toList.map fun line => .wrong .unexpectedIndent line.span

/-- What a command's body as such mentions or lacks, apart from the walk through its lines. -/
def bodyFindings (command : Command) (line : Line) (nested : Outline) : List Finding :=
  match command.body with
  | .none => unexpectedFindings nested
  | .nested | .remark => []
  | .options _ =>
      if nested.hasOption then [] else [.wrong (.emptyBlock ("*" ++ command.name)) line.span]
  | .branch _ =>
      if nested.isEmpty then [.wrong (.emptyBlock ("*" ++ command.name)) line.span] else []
  | .scenes listed => sceneRowFindings listed nested.roots
  | .chart => chartFindings nested

/-- What a command mentions or lacks, after the command `previous` on its level. -/
def commandFindings (previous : Option Command) (command : Command) (arguments : Fragment)
    (line : Line) (nested : Outline) : List Finding :=
  (if command.needsArgument && arguments.isEmpty then
      [.wrong (.missingArgument command.name) line.span] else []) ++
    (if command.continuesChain && !previous.any (·.admitsBranch) then
      [.wrong (.orphanElse command.name) line.span] else []) ++
    argumentFindings line.number arguments command.arguments ++
    bodyFindings command line nested

def optionFindings (surroundings : Surroundings) (option : OptionLine) (line : Line)
    (nested : Outline) : List Finding :=
  (if surroundings.admitsOptions then [] else [.wrong .optionOutsideChoice line.span]) ++
    option.condition.toList.flatMap (expressionFindings line.number) ++
    proseFindings line.number true option.text ++
    (if surroundings = .inChoice false ∧ nested.isEmpty then
      [.wrong (.emptyBlock "#option") line.span] else [])

/-- The bytes of an unknown command with its star. -/
def unknownSpan (line : Line) (name : Fragment) : Span :=
  ⟨line.content.start, name.stop⟩

/-- What one line mentions or lacks, apart from the walk through the lines under it. -/
def lineFindings (surroundings : Surroundings) (previous : Option Command) (line : Line)
    (nested : Outline) : List Finding :=
  match line.kind with
  | .command command arguments => commandFindings previous command arguments line nested
  | .option option => optionFindings surroundings option line nested
  | .prose => proseFindings line.number true line.content ++ unexpectedFindings nested
  | .unknown name => [.wrong (.unknownCommand name.text.toLower) (unknownSpan line name)]

/-- What surrounds the lines under a line; none when they are not walked. -/
def Surroundings.under? (surroundings : Surroundings) (line : Line) : Option Surroundings :=
  match line.command? with
  | none => some .outside
  | some command =>
      match command.body with
      | .none | .nested => some .outside
      | .options fake => some (.inChoice fake)
      | .branch _ => some surroundings
      | .scenes _ | .chart | .remark => none

/-- The command that a following branch must continue; remarks are passed over. -/
def Line.previous (line : Line) (previous : Option Command) : Option Command :=
  if line.kind.isRemark then previous else line.command?

def Outline.findings (surroundings : Surroundings) (previous : Option Command) :
    Outline → List Finding
  | .nil => []
  | .entry line nested rest =>
      lineFindings surroundings previous line nested ++
        (match surroundings.under? line with
          | some inner => nested.findings inner none
          | none => []) ++
        rest.findings surroundings (line.previous previous)

/-- The faults of lines that are indented differently from the line before them on their level,
whose indentation is `expected`. -/
def Outline.indentFindings (expected : Option Nat) : Outline → List Finding
  | .nil => []
  | .entry line nested rest =>
      (if expected.any (· != line.indent) then [.wrong .inconsistentIndent line.span] else []) ++
        nested.indentFindings none ++ rest.indentFindings (some line.indent)

def Source.outline (source : Source) : Outline :=
  .build source.contentLines

def Outline.allFindings (outline : Outline) : List Finding :=
  outline.indentFindings none ++ outline.findings .outside none

def occurrencesOf (findings : List Finding) : List Occurrence :=
  (findings.filterMap (·.occurrence?)).mergeSort
    fun first second => first.span.start ≤ second.span.start

/-- The faults among the findings, by position; those of one place stay in the order in which they
were noticed. -/
def faultsOf (findings : List Finding) : List Fault :=
  (findings.filterMap (·.fault?)).mergeSort
    fun first second => first.span.start ≤ second.span.start

/-- A source that has been read.  All else follows from the source. -/
structure Scene where
  source : Source
  outline : Outline
  occurrences : List Occurrence
  faults : List Fault
  outline_eq : outline = source.outline
  occurrences_eq : occurrences = occurrencesOf outline.allFindings
  faults_eq : faults = faultsOf outline.allFindings

namespace Scene

def ofSource (source : Source) : Scene :=
  let outline := source.outline
  let findings := outline.allFindings
  { source
    outline
    occurrences := Gamebook.occurrencesOf findings
    faults := faultsOf findings
    outline_eq := rfl
    occurrences_eq := rfl
    faults_eq := rfl }

theorem ext_source {first second : Scene} (sourceEq : first.source = second.source) :
    first = second := by
  cases first with
  | mk _ _ _ _ firstOutline firstOccurrences firstFaults =>
      cases second with
      | mk _ _ _ _ secondOutline secondOccurrences secondFaults =>
          simp only at sourceEq
          subst sourceEq firstOutline secondOutline firstOccurrences secondOccurrences firstFaults
            secondFaults
          rfl

instance : DecidableEq Scene := fun first second =>
  decidable_of_iff (first.source = second.source) ⟨ext_source, congrArg Scene.source⟩

def parse (text : String) : Scene :=
  ofSource (.ofString text)

def text (scene : Scene) (span : Span) : String :=
  scene.source.slice span

def occurrencesOf (scene : Scene) (kind : OccurrenceKind) : List Occurrence :=
  scene.occurrences.filter (·.kind == kind)

/-- The occurrence that a cursor touches; prose is none. -/
def occurrenceAt? (scene : Scene) (offset : Nat) : Option Occurrence :=
  scene.occurrences.find? fun occurrence => !occurrence.isText && occurrence.span.touches offset

def declarations (scene : Scene) : List Occurrence :=
  scene.occurrences.filter (·.kind.isDeclaration)

/-- The first declaration of a kind with a key. -/
def findDeclaration? (scene : Scene) (kind : OccurrenceKind) (key : String) : Option Occurrence :=
  scene.occurrences.find? fun occurrence => occurrence.kind == kind && occurrence.key == key

def findLabel? (scene : Scene) (name : String) : Option Occurrence :=
  scene.findDeclaration? .label name.toLower

/-- The variable of a name, in whatever case it is written; variables of the scene come first. -/
def findVariable? (scene : Scene) (name : String) : Option Occurrence :=
  (scene.findDeclaration? .localVariable name.toLower).or
    (scene.findDeclaration? .globalVariable name.toLower)

def sceneList (scene : Scene) : List Occurrence :=
  scene.occurrences.filter (·.isListed)

end Scene

end Gamebook
