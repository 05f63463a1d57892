import Gamebook.Json.Basic
import Gamebook.Settings.Options

/-!
# Settings as JSON

Settings are records in which a missing member means its default and a member of an unknown name
means nothing.  A member of the wrong type makes the whole value unreadable.
-/

namespace Gamebook

def Json.optionalPath? : Json → Option (Option String)
  | .null => some none
  | .string path => some (some path)
  | _ => none

def Level.ofJson? (json : Json) : Option Level :=
  json.alternative?.bind find?

namespace LintOptions

def ofJson? (json : Json) : Option LintOptions := do
  let json ← json.openRecord? ("enabled" :: Rule.configurable.map (·.code))
  let enabled ← json.memberOr? "enabled" true Json.bool?
  Rule.configurable.foldlM
    (fun options rule =>
      (json.memberOr? rule.code (options.level rule) Level.ofJson?).map (options.setLevel rule))
    { enabled }

def toJson (options : LintOptions) : Json :=
  .object (("enabled", .bool options.enabled) ::
    Rule.configurable.map fun rule => (rule.code, .string (options.level rule).name))

end LintOptions

namespace SpellingOptions

def ofJson? (json : Json) : Option SpellingOptions := do
  let json ← json.openRecord? ["enabled", "dictionary", "dictionaryPath", "userDictionaryPath"]
  return {
    enabled := ← json.memberOr? "enabled" true Json.bool?
    language := ← json.memberOr? "dictionary" .american fun value =>
      value.alternative?.bind DictionaryLanguage.find?
    dictionaryPath := ← json.memberOr? "dictionaryPath" none Json.optionalPath?
    userDictionaryPath := ← json.memberOr? "userDictionaryPath" none Json.optionalPath? }

def toJson (options : SpellingOptions) : Json :=
  .object
    [ ("enabled", .bool options.enabled),
      ("dictionary", .string options.language.name),
      ("dictionaryPath", .ofOption .string options.dictionaryPath),
      ("userDictionaryPath", .ofOption .string options.userDictionaryPath) ]

end SpellingOptions

namespace DiagnosticOptions

def ofJson? (json : Json) : Option DiagnosticOptions := do
  let json ← json.openRecord? ["validate", "lint", "spellcheck"]
  let validate ← json.memberOr? "validate" true Json.bool?
  let lint ← json.memberOr? "lint" {} LintOptions.ofJson?
  let spelling ← json.memberOr? "spellcheck" {} SpellingOptions.ofJson?
  return ⟨⟨validate, lint⟩, spelling⟩

def toJson (options : DiagnosticOptions) : Json :=
  .object
    [ ("validate", .bool options.validation.validate),
      ("lint", options.validation.lint.toJson),
      ("spellcheck", options.spelling.toJson) ]

end DiagnosticOptions

namespace Features

def ofJson? (json : Json) : Option Features := do
  let json ← json.openRecord? (Feature.all.map (·.name))
  Feature.all.foldlM
    (fun features feature =>
      (json.memberOr? feature.name (features.isOn feature) Json.bool?).map (features.set feature))
    {}

def toJson (features : Features) : Json :=
  .object (Feature.all.map fun feature => (feature.name, .bool (features.isOn feature)))

end Features

namespace Settings

/-- Settings from a record that holds nothing else. -/
def ofPlainJson? (json : Json) : Option Settings := do
  let json ← json.openRecord? ["diagnostics", "mode"]
  let diagnostics ← json.memberOr? "diagnostics" {} DiagnosticOptions.ofJson?
  let features ← json.memberOr? "mode" {} Features.ofJson?
  return ⟨diagnostics, features⟩

/-- Settings from the value of a client, which may hold them under the name of the language. -/
def ofJson? (json : Json) : Option Settings :=
  ofPlainJson? ((json.get? "choicescript").getD json)

def toJson (settings : Settings) : Json :=
  .object
    [("diagnostics", settings.diagnostics.toJson), ("mode", settings.features.toJson)]

end Settings

end Gamebook
