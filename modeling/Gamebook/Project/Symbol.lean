import Gamebook.Project.Snapshot

/-!
# Symbols across a project

An occurrence stands for a symbol, and a symbol seen from a scene resolves to at most one
declaration.  The references of a symbol are the occurrences that resolve to the same declaration;
a symbol without one is referred to by the occurrences of the same name that have none either.
-/

namespace Gamebook

/-- What an occurrence stands for.  Keys are in lower case, scene names as written. -/
inductive Symbol where
  | var (key : String)
  | label (scene key : String)
  | scene (name : String)
  | achievement (key : String)
deriving DecidableEq, Repr

namespace Symbol

/-- The symbol of an occurrence in a scene; prose stands for none. -/
def of? (sceneName : String) (occurrence : Occurrence) : Option Symbol :=
  match occurrence.role with
  | .globalVariable _ | .localVariable _ | .variableRead | .variableWrite =>
      some (.var occurrence.key)
  | .label | .labelReference => some (.label sceneName occurrence.key)
  | .sceneLabelReference target => some (.label target occurrence.key)
  | .sceneReference _ => some (.scene occurrence.name)
  | .achievement _ | .achievementReference => some (.achievement occurrence.key)
  | .text => none

/-- Whether two symbols are of one kind and one name, wherever they are declared. -/
def sameName : Symbol → Symbol → Bool
  | .var first, .var second => first == second
  | .label _ first, .label _ second => first == second
  | .scene first, .scene second => first == second
  | .achievement first, .achievement second => first == second
  | _, _ => false

end Symbol

structure Declaration where
  entry : SceneEntry
  /-- The declaring occurrence; none when the symbol is the scene itself. -/
  occurrence : Option Occurrence
deriving DecidableEq

namespace Declaration

/-- The place of the declaration; the begin of the text for a scene. -/
def span (declaration : Declaration) : Span :=
  (declaration.occurrence.map (·.span)).getD ⟨0, 0⟩

def sameSite (first second : Declaration) : Bool :=
  first.entry.uri == second.entry.uri &&
    first.occurrence.map (·.span) == second.occurrence.map (·.span)

end Declaration

namespace ProjectSnapshot

/-- The scene of a name, where a scene's own name means the scene itself. -/
def sceneFrom? (snapshot : ProjectSnapshot) (origin : SceneEntry) (name : String) :
    Option SceneEntry :=
  if name = origin.name then some origin else snapshot.scene? name

/-- The declaration of a variable: of the scene's own first, then of the startup scene. -/
def resolveVariable? (snapshot : ProjectSnapshot) (origin : SceneEntry) (key : String) :
    Option Declaration :=
  match origin.scene.findVariable? key with
  | some occurrence => some ⟨origin, some occurrence⟩
  | none =>
      snapshot.startup?.bind fun startup =>
        startup.exports.globals[key]?.map fun occurrence => ⟨startup, some occurrence⟩

/-- The declaration of an achievement: of the scene's own first, then of the startup scene. -/
def resolveAchievement? (snapshot : ProjectSnapshot) (origin : SceneEntry) (key : String) :
    Option Declaration :=
  match origin.exports.achievements[key]? with
  | some occurrence => some ⟨origin, some occurrence⟩
  | none =>
      snapshot.startup?.bind fun startup =>
        startup.exports.achievements[key]?.map fun occurrence => ⟨startup, some occurrence⟩

def resolve? (snapshot : ProjectSnapshot) (origin : SceneEntry) : Symbol → Option Declaration
  | .var key => snapshot.resolveVariable? origin key
  | .achievement key => snapshot.resolveAchievement? origin key
  | .scene name => (snapshot.sceneFrom? origin name).map fun target => ⟨target, none⟩
  | .label scene key =>
      (snapshot.sceneFrom? origin scene).bind fun target =>
        target.exports.labels[key]?.map fun occurrence => ⟨target, some occurrence⟩

/-- Whether an occurrence of an entry refers to a symbol that resolves to `target`. -/
def refersTo (snapshot : ProjectSnapshot) (symbol : Symbol) (target : Option Declaration)
    (entry : SceneEntry) (occurrence : Occurrence) : Bool :=
  match Symbol.of? entry.name occurrence with
  | none => false
  | some candidate =>
      candidate.sameName symbol &&
        match target, snapshot.resolve? entry candidate with
        | some target, some declaration => target.sameSite declaration
        | none, none => candidate == symbol
        | _, _ => false

/-- Every occurrence that refers to the same declaration as a symbol seen from a scene, by URI and
position. -/
def references (snapshot : ProjectSnapshot) (origin : SceneEntry) (symbol : Symbol) :
    List (SceneEntry × Occurrence) :=
  let target := snapshot.resolve? origin symbol
  snapshot.scenes.flatMap fun entry =>
    (entry.scene.occurrences.filter (snapshot.refersTo symbol target entry)).map (entry, ·)

end ProjectSnapshot

end Gamebook
