import Gamebook.Editor.Navigation

/-!
# Completion

What may stand at a position follows from the line before it: a command, a label, a scene, a label
of a scene, a variable or an achievement.  Every item replaces the name typed so far.
-/

namespace Gamebook

/-- What may be completed at a place. -/
inductive CompletionContext where
  | command
  | label
  | scene
  | sceneLabel (scene : String)
  | var
  | achievement
  | unknown
deriving DecidableEq, Repr

inductive CompletionKind where
  | keyword
  | label
  | scene
  | var
  | achievement
deriving DecidableEq, Repr

structure CompletionItem where
  label : String
  kind : CompletionKind
  detail : Option String
  documentation : Option String
  group : Nat
deriving DecidableEq, Repr

def CompletionItem.sortText (item : CompletionItem) : String :=
  s!"{item.group}_{item.label}"

/-- Items and the range they replace. -/
structure Completion where
  items : List CompletionItem
  range : Range
deriving DecidableEq, Repr

/-- Whether a text ends inside an interpolation of which nothing but blanks has been written. -/
def inInterpolation (before : List Char) : Bool :=
  match (trimEndChars isBlank before).reverse with
  | '{' :: '$' :: _ => true
  | '{' :: '!' :: '$' :: _ => true
  | '{' :: '@' :: _ => true
  | _ => false

/-- Commands of which every argument is part of an expression. -/
def expressionCommands : List String :=
  ["delete", "elseif", "elsif", "if", "input_number", "input_text", "looplimit", "print", "rand",
    "selectable_if", "set", "setref"]

/-- Commands whose first argument is a scene. -/
def sceneCommands : List String :=
  ["gosub_scene", "goto_scene", "redirect_scene"]

namespace CompletionContext

/-- What may follow a command and the words behind it. -/
def afterCommand (command : String) (words : List String) : CompletionContext :=
  if command == "goto" then
    if words.isEmpty then label else unknown
  else if command == "gosub" then
    if words.isEmpty then label else var
  else if sceneCommands.contains command then
    match words with
    | [] => scene
    | [target] => sceneLabel target
    | _ => var
  else if command == "achieve" then
    if words.isEmpty then achievement else unknown
  else if command == "temp" || command == "create" then
    if words.isEmpty then unknown else var
  else if expressionCommands.contains command then
    var
  else
    unknown

/-- What may follow a line up to the name being typed. -/
def detect (before : List Char) : CompletionContext :=
  if inInterpolation before then
    var
  else
    match before.dropWhile isBlank with
    | '*' :: rest =>
        if rest.isEmpty then
          command
        else if rest.all isNameChar then
          unknown
        else
          afterCommand (String.ofList (rest.takeWhile isNameChar)).toLower
            ((blankSeparated (rest.dropWhile isNameChar)).map String.ofList)
    | _ => unknown

end CompletionContext

/-- The first occurrence of each key. -/
def firstOfEachKey (occurrences : List Occurrence) : List Occurrence :=
  occurrences.foldl
    (fun kept occurrence =>
      if kept.any (·.key == occurrence.key) then kept else kept ++ [occurrence])
    []

def lineDetail (occurrence : Occurrence) : String :=
  s!"line {occurrence.line + 1}"

def commandItems : List CompletionItem :=
  Command.table.map fun command =>
    ⟨command.name, .keyword, some command.description, some command.description, 0⟩

def labelItems (entry : SceneEntry) : List CompletionItem :=
  (firstOfEachKey (entry.scene.occurrencesOf .label)).map fun occurrence =>
    ⟨occurrence.name, .label, some (lineDetail occurrence), none, 0⟩

def variableItem (occurrence : Occurrence) : CompletionItem :=
  let (scope, group) := if occurrence.kind == .localVariable then ("temp", 0) else ("global", 1)
  { label := occurrence.name
    kind := .var
    detail := some s!"{scope} · {occurrence.valueType.name}"
    documentation := occurrence.value?.map fun value => s!"Initial value: {value}"
    group }

def reservedItems : List CompletionItem :=
  reservedWords.map fun word => ⟨word, .keyword, none, none, 2⟩

namespace ProjectSnapshot

/-- The variables that a scene can name, each once: its own, then those of the startup scene. -/
def visibleVariables (snapshot : ProjectSnapshot) (entry : SceneEntry) : List Occurrence :=
  let shared := (snapshot.startup?.map (·.exports.globals.values)).getD []
  firstOfEachKey (entry.scene.occurrencesOf .localVariable ++
    entry.scene.occurrencesOf .globalVariable ++ shared)

/-- The achievements that a scene can award, each once. -/
def visibleAchievements (snapshot : ProjectSnapshot) (entry : SceneEntry) : List Occurrence :=
  let shared := (snapshot.startup?.map (·.exports.achievements.values)).getD []
  firstOfEachKey (entry.exports.achievements.values ++ shared)

def sceneItems (snapshot : ProjectSnapshot) : List CompletionItem :=
  snapshot.sceneNames.toList.map fun name =>
    ⟨name, .scene, (snapshot.scene? name).map (·.uri), none, 0⟩

def completionItems (snapshot : ProjectSnapshot) (entry : SceneEntry) :
    CompletionContext → List CompletionItem
  | .command => commandItems
  | .label => labelItems entry
  | .scene => snapshot.sceneItems
  | .sceneLabel scene => ((snapshot.scene? scene).map labelItems).getD []
  | .var => (snapshot.visibleVariables entry).map variableItem ++ reservedItems
  | .achievement =>
      (snapshot.visibleAchievements entry).map fun occurrence =>
        ⟨occurrence.name, .achievement, occurrence.value?, none, 0⟩
  | .unknown => []

/-- What is offered at a position; none for nothing. -/
def complete? (snapshot : ProjectSnapshot) (uri : Uri) (position : Position) :
    Option Completion := do
  let entry ← snapshot.document? uri
  let line ← entry.scene.source.lineBefore? position
  let (before, typed) := splitPartialName line
  let items ← nonEmpty? (snapshot.completionItems entry (.detect before))
  some ⟨items, ⟨⟨position.line, position.column - typed.length⟩, position⟩⟩

end ProjectSnapshot

end Gamebook
