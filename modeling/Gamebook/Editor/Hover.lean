import Gamebook.Editor.Place
import Gamebook.Project.Symbol

/-!
# Hover texts

What is shown for the symbol or the command at a position.
-/

namespace Gamebook

/-- A text shown for a range, in Markdown. -/
structure Hover where
  text : String
  range : Range
deriving DecidableEq, Repr

/-- Where an occurrence of an entry is declared; lines are counted from one. -/
def declaredText (entry : SceneEntry) (occurrence : Occurrence) : String :=
  s!"Declared in `{entry.name}` on line {occurrence.line + 1}"

def variableText (entry : SceneEntry) (occurrence : Occurrence) : String :=
  let scope :=
    if occurrence.kind == .globalVariable then "global variable" else "temporary variable"
  let value :=
    match occurrence.value? with
    | some value => s!"\n\nInitial value: `{value}` ({occurrence.valueType.name})"
    | none => ""
  s!"**{occurrence.name}** · {scope}\n\n" ++ declaredText entry occurrence ++ value

def labelText (entry : SceneEntry) (occurrence : Occurrence) : String :=
  s!"**{occurrence.name}** · label\n\nIn scene `{entry.name}` on line {occurrence.line + 1}"

def achievementText (entry : SceneEntry) (occurrence : Occurrence) : String :=
  let title :=
    match occurrence.value? with
    | some title => if title.isEmpty then "" else s!"\n\n{title}"
    | none => ""
  s!"**{occurrence.name}** · achievement" ++ title ++ "\n\n" ++ declaredText entry occurrence

/-- The text for a scene that is indexed, listed only, or unknown. -/
def sceneText? (snapshot : ProjectSnapshot) (name : String) :
    Option Declaration → Option String
  | some declaration => some s!"**{name}** · scene\n\n`{declaration.entry.uri}`"
  | none =>
      if snapshot.sceneNames.contains name then
        some s!"**{name}** · scene\n\nListed in `*scene_list`, not indexed"
      else
        none

def symbolText? (snapshot : ProjectSnapshot) (entry : SceneEntry) (symbol : Symbol) :
    Option String :=
  let declaration := snapshot.resolve? entry symbol
  let describe (render : SceneEntry → Occurrence → String) : Option String :=
    declaration.bind fun found => found.occurrence.map (render found.entry)
  match symbol with
  | .var _ => describe variableText
  | .label .. => describe labelText
  | .achievement _ => describe achievementText
  | .scene name => sceneText? snapshot name declaration

/-- What is shown for the command at a position: a name right behind a star. -/
def commandHover? (source : Source) (position : Position) : Option Hover := do
  let line ← source.line? position.line
  let (before, begun) := splitPartialName (beforeColumn position.column line.chars)
  let name := begun ++ (afterColumn position.column line.chars).takeWhile isNameChar
  if before.getLast? = some '*' then
    let command ← Command.find? (String.ofList name)
    let start := line.start + byteSize before
    some
      { text := s!"**\\*{command.name}**\n\n{command.description}"
        range := source.rangeOf ⟨start - 1, start + byteSize name⟩ }
  else
    none

def ProjectSnapshot.hover? (snapshot : ProjectSnapshot) (uri : Uri) (position : Position) :
    Option Hover := do
  let entry ← snapshot.document? uri
  match entry.scene.occurrenceUnder? position with
  | none => commandHover? entry.scene.source position
  | some occurrence =>
      let symbol ← Symbol.of? entry.name occurrence
      let text ← symbolText? snapshot entry symbol
      some { text, range := entry.scene.source.rangeOf occurrence.span }

end Gamebook
