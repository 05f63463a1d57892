import Gamebook.Script.Value
import Gamebook.Text.Fragment

/-!
# Occurrences

A scene mentions variables, labels, scenes and achievements, and it shows prose.  Each mention is
an occurrence: what it does, the name as written and where it stands.
-/

namespace Gamebook

/-- What an occurrence does with its name. -/
inductive Role where
  | globalVariable (value : String)
  /-- Declares a variable of the scene; parameters have no value. -/
  | localVariable (value : Option String)
  | variableRead
  | variableWrite
  | label
  | labelReference
  /-- Names a scene; `listed` in the scene list of the game. -/
  | sceneReference (listed : Bool)
  /-- Names a label of another scene. -/
  | sceneLabelReference (scene : String)
  | achievement (title : String)
  | achievementReference
  /-- Prose to be spelled right. -/
  | text
deriving DecidableEq, Repr

/-- Roles without what they carry. -/
inductive OccurrenceKind where
  | globalVariable
  | localVariable
  | variableRead
  | variableWrite
  | label
  | labelReference
  | sceneReference
  | sceneLabelReference
  | achievement
  | achievementReference
  | text
deriving DecidableEq, Repr

namespace OccurrenceKind

def all : List OccurrenceKind :=
  [globalVariable, localVariable, variableRead, variableWrite, label, labelReference,
    sceneReference, sceneLabelReference, achievement, achievementReference, text]

def isDeclaration : OccurrenceKind → Bool
  | globalVariable | localVariable | label | achievement => true
  | _ => false

/-- Whether names of the kind are the same in upper and lower case. -/
def ignoresCase : OccurrenceKind → Bool
  | sceneReference | text => false
  | _ => true

end OccurrenceKind

namespace Role

def kind : Role → OccurrenceKind
  | globalVariable _ => .globalVariable
  | localVariable _ => .localVariable
  | variableRead => .variableRead
  | variableWrite => .variableWrite
  | label => .label
  | labelReference => .labelReference
  | sceneReference _ => .sceneReference
  | sceneLabelReference _ => .sceneLabelReference
  | achievement _ => .achievement
  | achievementReference => .achievementReference
  | text => .text

end Role

/-- A mention of a name, or a run of prose. -/
structure Occurrence where
  role : Role
  /-- The name as written, or the prose. -/
  name : String
  span : Span
  line : Nat
deriving DecidableEq, Repr

namespace Occurrence

def ofFragment (role : Role) (fragment : Fragment) (line : Nat) : Occurrence :=
  ⟨role, fragment.text, fragment.span, line⟩

def kind (occurrence : Occurrence) : OccurrenceKind :=
  occurrence.role.kind

/-- The name as names of its kind are compared. -/
def key (occurrence : Occurrence) : String :=
  if occurrence.kind.ignoresCase then occurrence.name.toLower else occurrence.name

/-- The initial value of a variable or the title of an achievement. -/
def value? (occurrence : Occurrence) : Option String :=
  match occurrence.role with
  | .globalVariable value => some value
  | .localVariable value => value
  | .achievement title => some title
  | _ => none

def valueType (occurrence : Occurrence) : ValueType :=
  occurrence.value?.elim .unknown .infer

/-- The scene whose label is named. -/
def scene? (occurrence : Occurrence) : Option String :=
  match occurrence.role with
  | .sceneLabelReference scene => some scene
  | _ => none

def isListed (occurrence : Occurrence) : Bool :=
  match occurrence.role with
  | .sceneReference listed => listed
  | _ => false

def isText (occurrence : Occurrence) : Bool :=
  occurrence.kind == .text

end Occurrence

end Gamebook
