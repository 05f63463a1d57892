import Gamebook.Editor.QuickFix
import Gamebook.Editor.Typing
import Gamebook.Settings.Options

/-!
# Capabilities

What the server tells an editor it can do.  A feature that is off is not mentioned.
-/

namespace Gamebook

def serverName : String := "choicescript-lsp"

def serverVersion : String := "0.1.0"

/-- Texts are synchronized by sending what has changed. -/
def incrementalSync : Nat := 2

/-- The characters after which an editor asks for completion: they start a command, an argument
or an interpolation. -/
def completionTriggers : List String :=
  ["*", " ", "\x7b"]

/-- What the server can do with the given features. -/
def Features.capabilities (features : Features) : Json :=
  let whenOn (feature : Feature) (value : Json) : Option Json :=
    if features.isOn feature then some value else none
  .ofMembers
    [ ("textDocumentSync", some (.nat incrementalSync)),
      ("completionProvider", whenOn .completionItems
        (.object [("triggerCharacters", .ofList .string completionTriggers)])),
      ("hoverProvider", whenOn .hovers (.bool true)),
      ("definitionProvider", whenOn .definitions (.bool true)),
      ("referencesProvider", whenOn .references (.bool true)),
      ("documentSymbolProvider", whenOn .documentSymbols (.bool true)),
      ("documentHighlightProvider", whenOn .documentHighlights (.bool true)),
      ("foldingRangeProvider", whenOn .foldingRanges (.bool true)),
      ("codeActionProvider", whenOn .diagnostics
        (.object [("codeActionKinds", .ofList .string ["quickfix"])])),
      ("executeCommandProvider", some
        (.object [("commands", .ofList .string [AcceptWord.commandName])])),
      ("documentOnTypeFormattingProvider", whenOn .autoFormat
        (.object
          [ ("firstTriggerCharacter", .string typingTriggers.1),
            ("moreTriggerCharacter", .ofList .string typingTriggers.2) ])) ]

def Features.greeting (features : Features) : Json :=
  .object
    [ ("capabilities", features.capabilities),
      ("serverInfo", .object
        [("name", .string serverName), ("version", .string serverVersion)]) ]

end Gamebook
