import Gamebook.Editor.Navigation

/-!
# Symbols and folds of a document

The declarations listed for a document, and the ranges of lines that fold away: every line with
lines under it.
-/

namespace Gamebook

inductive SymbolKind where
  | label
  | achievement
  | boolean
  | other
deriving DecidableEq, Repr

structure DocumentSymbol where
  name : String
  kind : SymbolKind
  location : Location
  container : String
deriving DecidableEq, Repr

def Occurrence.symbolKind (occurrence : Occurrence) : SymbolKind :=
  match occurrence.kind with
  | .label => .label
  | .achievement => .achievement
  | .globalVariable => if occurrence.valueType = .boolean then .boolean else .other
  | _ => .other

def SceneEntry.symbol (entry : SceneEntry) (occurrence : Occurrence) : DocumentSymbol :=
  ⟨occurrence.name, occurrence.symbolKind, entry.locate occurrence.span, entry.name⟩

namespace ProjectSnapshot

/-- The declarations of a document and, if wanted, what the startup scene declares for all; none
for nothing. -/
def symbols? (snapshot : ProjectSnapshot) (uri : Uri) (includeGlobals : Bool) :
    Option (List DocumentSymbol) :=
  (snapshot.document? uri).bind fun entry =>
    let own := entry.scene.declarations.map entry.symbol
    let shared :=
      match snapshot.startup? with
      | some startup =>
          if includeGlobals && startup.uri != entry.uri then
            (startup.exports.globals.values ++ startup.exports.achievements.values).map
              startup.symbol
          else
            []
      | none => []
    nonEmpty? (own ++ shared)

end ProjectSnapshot

/-- A run of lines that folds away behind its first. -/
structure Fold where
  first : Nat
  last : Nat
deriving DecidableEq, Repr

def Outline.folds : Outline → List Fold
  | .nil => []
  | .entry line nested rest =>
      let last := (lastOf line nested).number
      (if line.number < last then [⟨line.number, last⟩] else []) ++ nested.folds ++ rest.folds

def ProjectSnapshot.folds? (snapshot : ProjectSnapshot) (uri : Uri) : Option (List Fold) :=
  (snapshot.document? uri).map fun entry => entry.scene.outline.folds

end Gamebook
