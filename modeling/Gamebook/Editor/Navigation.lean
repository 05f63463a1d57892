import Gamebook.Editor.Place
import Gamebook.Project.Symbol

/-!
# Navigation

From the occurrence at a position to the declaration of its symbol, to every reference in the
project, and to every highlight in the document.
-/

namespace Gamebook

inductive HighlightKind where
  | read
  | write
deriving DecidableEq, Repr

structure Highlight where
  range : Range
  kind : HighlightKind
deriving DecidableEq, Repr

/-- Whether an occurrence gives its symbol a value. -/
def Occurrence.highlightKind (occurrence : Occurrence) : HighlightKind :=
  if occurrence.kind.isDeclaration || occurrence.kind == .variableWrite then .write else .read

def nonEmpty? : List α → Option (List α)
  | [] => none
  | values => some values

namespace ProjectSnapshot

/-- The symbol at a position of a document, and the entry of that document. -/
def symbolUnder? (snapshot : ProjectSnapshot) (uri : Uri) (position : Position) :
    Option (SceneEntry × Symbol) := do
  let entry ← snapshot.document? uri
  let occurrence ← entry.scene.occurrenceUnder? position
  let symbol ← Symbol.of? entry.name occurrence
  some (entry, symbol)

def definition? (snapshot : ProjectSnapshot) (uri : Uri) (position : Position) :
    Option Location := do
  let (entry, symbol) ← snapshot.symbolUnder? uri position
  let declaration ← snapshot.resolve? entry symbol
  some (declaration.entry.locate declaration.span)

/-- Where the symbol at a position is referred to; none for nowhere. -/
def referenceLocations? (snapshot : ProjectSnapshot) (uri : Uri) (position : Position)
    (includeDeclaration : Bool) : Option (List Location) := do
  let (entry, symbol) ← snapshot.symbolUnder? uri position
  nonEmpty? (((snapshot.references entry symbol).filter fun found =>
    includeDeclaration || !found.2.kind.isDeclaration).map fun found =>
      found.1.locate found.2.span)

/-- The occurrences of the symbol at a position in its own document; none for nowhere. -/
def highlights? (snapshot : ProjectSnapshot) (uri : Uri) (position : Position) :
    Option (List Highlight) := do
  let (entry, symbol) ← snapshot.symbolUnder? uri position
  nonEmpty? (((snapshot.references entry symbol).filter fun found =>
    found.1.uri == entry.uri).map fun found =>
      ⟨entry.scene.source.rangeOf found.2.span, found.2.highlightKind⟩)

end ProjectSnapshot

end Gamebook
