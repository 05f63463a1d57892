import Gamebook.Editor.Place

/-!
# Typographic replacements

While prose is typed, three points become an ellipsis and two hyphens a dash.  Commands are left
alone.
-/

namespace Gamebook

/-- The characters after which a replacement may happen. -/
def typingTriggers : String × List String :=
  (".", ["-"])

def typographicPairs : List (String × String) :=
  [("...", "…"), ("--", "—")]

/-- The replacement due after `typed` has been entered just before a position. -/
def Scene.formatTyped? (scene : Scene) (position : Position) (typed : String) :
    Option (List TextEdit) := do
  let line ← scene.source.lineBefore? position
  if (line.dropWhile isBlank).head? = some '*' then
    none
  else
    let (pattern, replacement) ← typographicPairs.find? fun pair =>
      typed.toList.isSuffixOf pair.1.toList && pair.1.toList.isSuffixOf line
    if position.column < pattern.length then
      none
    else
      some [⟨⟨⟨position.line, position.column - pattern.length⟩, position⟩, replacement⟩]

end Gamebook
