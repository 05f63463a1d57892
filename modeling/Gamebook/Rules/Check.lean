import Gamebook.Rules.Report
import Gamebook.Script.Scene

/-!
# Checking a scene

The rules look at a scene and at what is known of the project around it: the faults found while
reading, names declared twice, references to names that do not exist, and lines that no path
through the story reaches.
-/

namespace Gamebook

/-- What the rules may ask about the rest of the project.  Keys of variables, labels and
achievements are in lower case. -/
structure ProjectScope where
  /-- Whether the declarations of the startup scene are known. -/
  knowsGlobals : Bool
  hasGlobal : String → Bool
  hasAchievement : String → Bool
  hasScene : String → Bool
  /-- Whether a scene has a label; none when the scene is not known. -/
  hasLabel? : (scene label : String) → Option Bool

namespace ProjectScope

def empty : ProjectScope where
  knowsGlobals := false
  hasGlobal _ := false
  hasAchievement _ := false
  hasScene _ := false
  hasLabel? _ _ := none

end ProjectScope

def startupScene : String := "startup"

/-- Whether a variable is provided by the game itself. -/
def isBuiltinVariable (key : String) : Bool :=
  "choice_".toList.isPrefixOf key.toList || key == "implicit_control_flow"

structure CheckContext where
  sceneName : String
  project : ProjectScope

/-- A name that has been declared: its kind, its key and its line. -/
structure Declared where
  kind : OccurrenceKind
  key : String
  line : Nat

namespace Declared

/-- The line of the first declaration of a kind and key. -/
def line? (seen : List Declared) (kind : OccurrenceKind) (key : String) : Option Nat :=
  (seen.find? fun declared => declared.kind == kind && declared.key == key).map (·.line)

end Declared

/-- The violations of a declaration after those in `seen`. -/
def declarationViolations (isStartup : Bool) (first : Option Nat) (occurrence : Occurrence) :
    List Violation :=
  match occurrence.kind with
  | .label => first.toList.map (.duplicateLabel occurrence.name)
  | .globalVariable =>
      (if isStartup then [] else [.createOutsideStartup]) ++
        first.toList.map (.duplicateVariable occurrence.name)
  | .localVariable => first.toList.map (.duplicateVariable occurrence.name)
  | _ => []

def declarationReports (isStartup : Bool) : List Declared → List Occurrence → List Report
  | _, [] => []
  | seen, occurrence :: rest =>
      let first := Declared.line? seen occurrence.kind occurrence.key
      let next :=
        if first.isSome then seen else seen ++ [⟨occurrence.kind, occurrence.key, occurrence.line⟩]
      (declarationViolations isStartup first occurrence).map (.ofViolation · occurrence.span) ++
        declarationReports isStartup next rest

/-- Whether a variable is declared, as far as the project is known. -/
def isDeclaredVariable (scene : Scene) (project : ProjectScope) (key : String) : Bool :=
  isBuiltinVariable key || (scene.findVariable? key).isSome || !project.knowsGlobals ||
    project.hasGlobal key

def isDeclaredAchievement (scene : Scene) (project : ProjectScope) (key : String) : Bool :=
  (scene.findDeclaration? .achievement key).isSome || !project.knowsGlobals ||
    project.hasAchievement key

/-- Whether a scene exists or may exist: its name can be computed when the game runs. -/
def isExistingScene (scene : Scene) (context : CheckContext) (name : String) : Bool :=
  name.toList.head? == some '{' || name == context.sceneName ||
    scene.sceneList.any (·.name == name) || context.project.hasScene name

/-- Whether a label is known to be missing from the scene a jump goes to. -/
def isMissingLabel (scene : Scene) (context : CheckContext) (target : String)
    (occurrence : Occurrence) : Bool :=
  if target = context.sceneName then (scene.findLabel? occurrence.name).isNone
  else context.project.hasLabel? target occurrence.key == some false

/-- What is wrong with a reference. -/
def referenceViolation? (scene : Scene) (context : CheckContext) (occurrence : Occurrence) :
    Option Violation :=
  match occurrence.role with
  | .variableRead | .variableWrite =>
      if isDeclaredVariable scene context.project occurrence.key then none
      else some (.undeclaredVariable occurrence.name)
  | .labelReference =>
      if (scene.findLabel? occurrence.name).isSome then none
      else some (.undeclaredLabel occurrence.name)
  | .achievementReference =>
      if isDeclaredAchievement scene context.project occurrence.key then none
      else some (.undeclaredAchievement occurrence.name)
  | .sceneReference false =>
      if isExistingScene scene context occurrence.name then none
      else some (.unresolvedScene occurrence.name)
  | .sceneLabelReference target =>
      if isMissingLabel scene context target occurrence then
        some (.unresolvedSceneLabel occurrence.name target)
      else
        none
  | _ => none

def referenceReports (scene : Scene) (context : CheckContext) : List Report :=
  scene.occurrences.filterMap fun occurrence =>
    (referenceViolation? scene context occurrence).map (.ofViolation · occurrence.span)

/-- Whether the story can reach the next line on a level. -/
inductive Reach where
  | live
  /-- A line before it ends the story here, and nothing has been reported yet. -/
  | dead
  | reported
deriving DecidableEq, Repr

namespace Reach

/-- Whether a line can be reached whatever stands before it. -/
def isEntrance (line : Line) : Bool :=
  line.kind.isOption || line.isNamed ["label", "else", "elseif", "elsif"]

def enter (reach : Reach) (line : Line) : Reach :=
  if isEntrance line then live else reach

/-- Whether a line is the first that cannot be reached. -/
def reports (reach : Reach) (line : Line) : Bool :=
  reach == dead && !line.isNamed ["comment"]

def leave (reach : Reach) (line : Line) : Reach :=
  let reach := if reach.reports line then reported else reach
  if reach == live && line.command?.any (·.terminal) then dead else reach

end Reach

/-- The reports of lines that cannot be reached, one for each run of them. -/
def unreachableReports (reach : Reach) : Outline → List Report
  | .nil => []
  | .entry line nested rest =>
      let here := reach.enter line
      (if here.reports line then
          [.ofViolation .unreachableCode
            ⟨line.span.start, (Outline.lastOf line nested).span.stop⟩]
        else []) ++
        unreachableReports .live nested ++ unreachableReports (here.leave line) rest

def allReports (scene : Scene) (context : CheckContext) : List Report :=
  scene.faults.map (fun fault => .ofViolation (.fault fault.cause) fault.span) ++
    declarationReports (context.sceneName == startupScene) [] scene.declarations ++
    referenceReports scene context ++
    unreachableReports .live scene.outline

/-- The reports on a scene, by position. -/
def validate (scene : Scene) (context : CheckContext) (options : ValidationOptions) :
    List Report :=
  ((allReports scene context).filterMap (Report.adjust? options)).mergeSort
    fun first second => first.span.start ≤ second.span.start

end Gamebook
