import Gamebook.Json.Shape

/-!
# Capabilities of clients

What a client tells about itself before a session.  The server offers the same to every client and
uses nothing of it, but it only starts for a client whose account has the agreed shape.  Groups of
capabilities are records, and a capability that is not mentioned is not there.
-/

namespace Gamebook

namespace ClientCapabilities

/-- Something a client can do or cannot do. -/
def ability : Shape := .optional .flag

/-- Capabilities that belong together. -/
def group (members : List (String × Shape)) : Shape := .optional (.record members)

def abilities (names : List String) : Shape := group (names.map (·, ability))

/-- Whether a client can be told later that a feature is there. -/
def registration : Shape := abilities ["dynamicRegistration"]

/-- Whether a client can be asked to fetch something again. -/
def refreshing : Shape := abilities ["refreshSupport"]

def formats : Shape := .optional (.list (.choice ["plaintext", "markdown"]))

/-- A set of numbered kinds, all of which are known when the set is missing. -/
def kinds : Shape := group [("valueSet", .optional (.list .signed))]

/-- A set of numbered tags; true and false stand for none of them. -/
def tags : Shape := .optional (.either .flag (.record [("valueSet", .list .signed)]))

/-- The properties that a client can fetch when they are needed. -/
def lateProperties : Shape := group [("properties", .list .text)]

def workspaceEdit : Shape :=
  group
    [ ("documentChanges", ability),
      ("resourceOperations", .optional (.list (.choice ["create", "rename", "delete"]))),
      ("failureHandling",
        .optional (.choice ["abort", "transactional", "textOnlyTransactional", "undo"])),
      ("normalizesLineEndings", ability),
      ("changeAnnotationSupport", abilities ["groupsOnLabel"]) ]

def workspace : Shape :=
  group
    [ ("applyEdit", ability),
      ("workspaceEdit", workspaceEdit),
      ("didChangeConfiguration", registration),
      ("didChangeWatchedFiles", abilities ["dynamicRegistration", "relativePatternSupport"]),
      ("symbol", group
        [ ("dynamicRegistration", ability), ("symbolKind", kinds), ("tagSupport", tags),
          ("resolveSupport", lateProperties) ]),
      ("executeCommand", registration),
      ("workspaceFolders", ability),
      ("configuration", ability),
      ("semanticTokens", refreshing),
      ("codeLens", refreshing),
      ("fileOperations", abilities
        [ "dynamicRegistration", "didCreate", "willCreate", "didRename", "willRename", "didDelete",
          "willDelete" ]),
      ("inlineValue", refreshing),
      ("inlayHint", refreshing),
      ("diagnostic", refreshing) ]

def completionItem : Shape :=
  group
    [ ("snippetSupport", ability),
      ("commitCharactersSupport", ability),
      ("documentationFormat", formats),
      ("deprecatedSupport", ability),
      ("preselectSupport", ability),
      ("tagSupport", tags),
      ("insertReplaceSupport", ability),
      ("resolveSupport", lateProperties),
      ("insertTextModeSupport", group [("valueSet", .list .signed)]),
      ("labelDetailsSupport", ability) ]

def completion : Shape :=
  group
    [ ("dynamicRegistration", ability),
      ("completionItem", completionItem),
      ("completionItemKind", kinds),
      ("contextSupport", ability),
      ("insertTextMode", .optional .signed),
      ("completionList", group [("itemDefaults", .optional (.list .text))]) ]

def signatureHelp : Shape :=
  group
    [ ("dynamicRegistration", ability),
      ("signatureInformation", group
        [ ("documentationFormat", formats),
          ("parameterInformation", abilities ["labelOffsetSupport"]),
          ("activeParameterSupport", ability) ]),
      ("contextSupport", ability) ]

def codeAction : Shape :=
  group
    [ ("dynamicRegistration", ability),
      ("codeActionLiteralSupport", group
        [("codeActionKind", .record [("valueSet", .list .text)])]),
      ("isPreferredSupport", ability),
      ("disabledSupport", ability),
      ("dataSupport", ability),
      ("resolveSupport", lateProperties),
      ("honorsChangeAnnotations", ability) ]

def publishDiagnostics : Shape :=
  group
    [ ("relatedInformation", ability),
      ("tagSupport", tags),
      ("versionSupport", ability),
      ("codeDescriptionSupport", ability),
      ("dataSupport", ability) ]

def foldingRange : Shape :=
  group
    [ ("dynamicRegistration", ability),
      ("rangeLimit", .optional .unsigned),
      ("lineFoldingOnly", ability),
      ("foldingRangeKind", group
        [("valueSet", .optional (.list (.choice ["comment", "imports", "region"])))]),
      ("foldingRange", abilities ["collapsedText"]) ]

def semanticTokens : Shape :=
  group
    [ ("dynamicRegistration", ability),
      ("requests", .record
        [ ("range", ability),
          ("full", .optional (.either .flag (.object [("delta", ability)]))) ]),
      ("tokenTypes", .list .text),
      ("tokenModifiers", .list .text),
      ("formats", .list .text),
      ("overlappingTokenSupport", ability),
      ("multilineTokenSupport", ability),
      ("serverCancelSupport", ability),
      ("augmentsSyntaxTokens", ability) ]

/-- Whether a client can show the origin of what a place leads to. -/
def links : Shape := abilities ["dynamicRegistration", "linkSupport"]

def textDocument : Shape :=
  group
    [ ("synchronization", abilities
        ["dynamicRegistration", "willSave", "willSaveWaitUntil", "didSave"]),
      ("completion", completion),
      ("hover", group [("dynamicRegistration", ability), ("contentFormat", formats)]),
      ("signatureHelp", signatureHelp),
      ("references", registration),
      ("documentHighlight", registration),
      ("documentSymbol", group
        [ ("dynamicRegistration", ability), ("symbolKind", kinds),
          ("hierarchicalDocumentSymbolSupport", ability), ("tagSupport", tags) ]),
      ("formatting", registration),
      ("rangeFormatting", registration),
      ("onTypeFormatting", registration),
      ("declaration", links),
      ("definition", links),
      ("typeDefinition", links),
      ("implementation", links),
      ("codeAction", codeAction),
      ("codeLens", registration),
      ("documentLink", abilities ["dynamicRegistration", "tooltipSupport"]),
      ("colorProvider", registration),
      ("rename", group
        [ ("dynamicRegistration", ability), ("prepareSupport", ability),
          ("prepareSupportDefaultBehavior", .optional .signed),
          ("honorsChangeAnnotations", ability) ]),
      ("publishDiagnostics", publishDiagnostics),
      ("foldingRange", foldingRange),
      ("selectionRange", registration),
      ("linkedEditingRange", registration),
      ("callHierarchy", registration),
      ("semanticTokens", semanticTokens),
      ("moniker", registration),
      ("typeHierarchy", registration),
      ("inlineValue", registration),
      ("inlayHint", group [("dynamicRegistration", ability), ("resolveSupport", lateProperties)]),
      ("diagnostic", abilities ["dynamicRegistration", "relatedDocumentSupport"]) ]

def notebookDocument : Shape :=
  group
    [("synchronization", .record
      [("dynamicRegistration", ability), ("executionSummaryReport", ability)])]

def window : Shape :=
  group
    [ ("workDoneProgress", ability),
      ("showMessage", group
        [("messageActionItem", abilities ["additionalPropertiesSupport"])]),
      ("showDocument", group [("support", .flag)]) ]

/-- Capabilities that belong to no feature. -/
def general : Shape :=
  group
    [ ("regularExpressions", group [("engine", .text), ("version", .optional .text)]),
      ("markdown", group
        [ ("parser", .text), ("version", .optional .text),
          ("allowedTags", .optional (.list .text)) ]),
      ("staleRequestSupport", group
        [("cancel", .flag), ("retryOnContentModified", .list .text)]),
      ("positionEncodings", .optional (.list .text)) ]

/-- All capabilities of a client. -/
def all : Shape :=
  .record
    [ ("workspace", workspace),
      ("textDocument", textDocument),
      ("notebookDocument", notebookDocument),
      ("window", window),
      ("general", general),
      ("experimental", .any) ]

end ClientCapabilities

end Gamebook
