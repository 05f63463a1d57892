import Gamebook.Project.Entry

/-!
# Places in documents

Ranges and locations as editors exchange them, and what stands at a position of a scene.
-/

namespace Gamebook

structure Range where
  start : Position
  stop : Position
deriving DecidableEq, Repr

structure Location where
  uri : Uri
  range : Range
deriving DecidableEq, Repr

structure TextEdit where
  range : Range
  newText : String
deriving DecidableEq, Repr

/-- The greatest number that fits 32 bits. -/
def unsignedLimit : Nat := 0xFFFFFFFF

/-- The zero-based position of a line and column counted from one; zero counts as one. -/
def Position.ofDisplay (line column : Nat) : Position :=
  ⟨line - 1, column - 1⟩

/-- Line and column counted from one, as far as 32 bits reach. -/
def Position.display (position : Position) : Nat × Nat :=
  (min (position.line + 1) unsignedLimit, min (position.column + 1) unsignedLimit)

def Source.rangeOf (source : Source) (span : Span) : Range :=
  ⟨source.positionOf span.start, source.positionOf span.stop⟩

def SceneEntry.locate (entry : SceneEntry) (span : Span) : Location :=
  ⟨entry.uri, entry.scene.source.rangeOf span⟩

def Scene.occurrenceUnder? (scene : Scene) (position : Position) : Option Occurrence :=
  (scene.source.offsetOf? position).bind scene.occurrenceAt?

/-- The content of a line up to a position. -/
def Source.lineBefore? (source : Source) (position : Position) : Option (List Char) :=
  (source.line? position.line).map fun line => beforeColumn position.column line.chars

/-- A text cut before the name that ends it. -/
def splitPartialName (text : List Char) : List Char × List Char :=
  let before := trimEndChars isNameChar text
  (before, text.drop before.length)

end Gamebook
