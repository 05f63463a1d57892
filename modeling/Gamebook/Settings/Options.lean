import Gamebook.Rules.Rule
import Gamebook.Spelling.Dictionary

/-!
# Settings

What a client configures: which rules report and how, how prose is spell checked, and which
features of the server are on.
-/

namespace Gamebook

/-- How prose is spell checked. -/
structure SpellingOptions where
  enabled : Bool := true
  language : DictionaryLanguage := .american
  /-- A word list that takes the place of the built-in dictionary. -/
  dictionaryPath : Option String := none
  /-- The file that accepted words are kept in. -/
  userDictionaryPath : Option String := none
deriving DecidableEq, Repr

/-- What is reported about a document. -/
structure DiagnosticOptions where
  validation : ValidationOptions := {}
  spelling : SpellingOptions := {}
deriving DecidableEq

/-- A feature of the server that can be switched off. -/
inductive Feature where
  | completionItems
  | hovers
  | documentSymbols
  | definitions
  | references
  | documentHighlights
  | foldingRanges
  | diagnostics
  | autoFormat
deriving DecidableEq, Repr

namespace Feature

def all : List Feature :=
  [completionItems, hovers, documentSymbols, definitions, references, documentHighlights,
    foldingRanges, diagnostics, autoFormat]

theorem mem_all (feature : Feature) : feature ∈ all := by
  cases feature <;> decide

def name : Feature → String
  | completionItems => "completionItems"
  | hovers => "hovers"
  | documentSymbols => "documentSymbols"
  | definitions => "definitions"
  | references => "references"
  | documentHighlights => "documentHighlights"
  | foldingRanges => "foldingRanges"
  | diagnostics => "diagnostics"
  | autoFormat => "autoFormat"

def onByDefault : Feature → Bool
  | documentHighlights | foldingRanges => false
  | _ => true

end Feature

instance : DecidableEq (Feature → Bool) := fun first second =>
  decidable_of_iff (∀ feature ∈ Feature.all, first feature = second feature)
    ⟨fun equal => funext fun feature => equal feature (Feature.mem_all feature),
      fun equal feature _ => congrFun equal feature⟩

structure Features where
  isOn : Feature → Bool := Feature.onByDefault
deriving DecidableEq

namespace Features

def set (features : Features) (feature : Feature) (on : Bool) : Features :=
  ⟨fun other => if other = feature then on else features.isOn other⟩

end Features

structure Settings where
  diagnostics : DiagnosticOptions := {}
  features : Features := {}
deriving DecidableEq

/-! ## Settings that mean the same -/

/-- A path without names that lead nowhere. -/
def normalPath (path : String) : String :=
  (FilePath.normal ⟨path⟩).text

/-- The options with their paths in normal form. -/
def SpellingOptions.normal (options : SpellingOptions) : SpellingOptions :=
  { options with
    dictionaryPath := options.dictionaryPath.map normalPath
    userDictionaryPath := options.userDictionaryPath.map normalPath }

def DiagnosticOptions.normal (options : DiagnosticOptions) : DiagnosticOptions :=
  { options with spelling := options.spelling.normal }

/-- Whether two options have the same effect. -/
def SpellingOptions.agree (first second : SpellingOptions) : Bool :=
  first.normal = second.normal

end Gamebook
