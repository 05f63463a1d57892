import Gamebook.Editor.Completion
import Gamebook.Editor.Hover
import Gamebook.Editor.Outlining
import Gamebook.Editor.QuickFix

/-!
# Answers as JSON

How the answers to an editor are written.  Members without a value are left out.
-/

namespace Gamebook

/-- A position; the column is called character. -/
def Position.toJson (position : Position) : Json :=
  .object [("line", .nat position.line), ("character", .nat position.column)]

def Range.toJson (range : Range) : Json :=
  .object [("start", range.start.toJson), ("end", range.stop.toJson)]

def Location.toJson (location : Location) : Json :=
  .object [("uri", .string location.uri), ("range", location.range.toJson)]

def TextEdit.toJson (edit : TextEdit) : Json :=
  .object [("range", edit.range.toJson), ("newText", .string edit.newText)]

def Hover.toJson (hover : Hover) : Json :=
  .object
    [ ("contents", .object [("kind", .string "markdown"), ("value", .string hover.text)]),
      ("range", hover.range.toJson) ]

def HighlightKind.number : HighlightKind → Nat
  | read => 2
  | write => 3

def Highlight.toJson (highlight : Highlight) : Json :=
  .object [("range", highlight.range.toJson), ("kind", .nat highlight.kind.number)]

/-- A fold, which is a region. -/
def Fold.toJson (fold : Fold) : Json :=
  .object
    [("startLine", .nat fold.first), ("endLine", .nat fold.last), ("kind", .string "region")]

def SymbolKind.number : SymbolKind → Nat
  | label => 12
  | achievement => 24
  | boolean => 17
  | other => 13

def DocumentSymbol.toJson (symbol : DocumentSymbol) : Json :=
  .object
    [ ("name", .string symbol.name), ("kind", .nat symbol.kind.number),
      ("location", symbol.location.toJson), ("containerName", .string symbol.container) ]

def CompletionKind.number : CompletionKind → Nat
  | keyword => 14
  | label => 18
  | scene => 17
  | var => 6
  | achievement => 23

def CompletionItem.toJson (range : Range) (item : CompletionItem) : Json :=
  .ofMembers
    [ ("label", some (.string item.label)), ("kind", some (.nat item.kind.number)),
      ("detail", item.detail.map .string), ("documentation", item.documentation.map .string),
      ("sortText", some (.string item.sortText)), ("filterText", some (.string item.label)),
      ("textEdit", some (TextEdit.toJson ⟨range, item.label⟩)) ]

def Completion.toJson (completion : Completion) : Json :=
  .ofList (·.toJson completion.range) completion.items

def DiagnosticCode.toJson : DiagnosticCode → Json
  | text code => .string code
  | number code => .int code

def RelatedPlace.toJson (place : RelatedPlace) : Json :=
  .object [("location", place.location.toJson), ("message", .string place.message)]

def Diagnostic.toJson (diagnostic : Diagnostic) : Json :=
  .ofMembers
    [ ("range", some diagnostic.range.toJson), ("severity", diagnostic.severity.map .int),
      ("code", diagnostic.code.map (·.toJson)),
      ("codeDescription", diagnostic.explanation.map fun uri => .object [("href", .string uri)]),
      ("source", diagnostic.source.map .string),
      ("message", some (.string diagnostic.message)),
      ("relatedInformation", diagnostic.related.map (.ofList RelatedPlace.toJson)),
      ("tags", diagnostic.tags.map (.ofList .int)), ("data", diagnostic.data) ]

/-- What a quick fix does to the marked range of a document. -/
def QuickFix.effect (uri : Uri) (range : Range) (fix : QuickFix) : List (String × Json) :=
  match fix with
  | correct replacement preferred =>
      let edits := Json.ofList TextEdit.toJson [⟨range, replacement⟩]
      [ ("edit", .object [("changes", .object [(uri, edits)])]),
        ("isPreferred", .bool preferred) ]
  | accept command =>
      [ ("command", .object
          [ ("title", .string fix.title), ("command", .string AcceptWord.commandName),
            ("arguments", .array command.arguments) ]) ]

/-- Quick fixes for a document, each with the diagnostic it fixes. -/
def QuickFixes.toJson (uri : Uri) (quickFixes : QuickFixes) : Json :=
  .ofList
    (fun fix => .object (
      [ ("title", .string fix.title), ("kind", .string "quickfix"),
        ("diagnostics", .array [quickFixes.marker.toJson]) ] ++
          fix.effect uri quickFixes.marker.range))
    quickFixes.fixes

end Gamebook
