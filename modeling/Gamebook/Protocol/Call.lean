import Gamebook.Protocol.Decoding
import Gamebook.Protocol.Message

/-!
# Requests and notifications of a client

A request asks about a document or runs a command; a notification tells what happened to documents,
files and settings.  A request of an unknown method or with unreadable parameters is refused, a
notification of that sort is passed over.
-/

namespace Gamebook

inductive Call where
  | shutdown
  | complete (uri : Uri) (position : Position)
  | define (uri : Uri) (position : Position)
  | refer (uri : Uri) (position : Position) (includeDeclaration : Bool)
  | hover (uri : Uri) (position : Position)
  | listSymbols (uri : Uri)
  | highlight (uri : Uri) (position : Position)
  | fold (uri : Uri)
  | quickFix (uri : Uri) (diagnostics : List Diagnostic)
  | execute (command : String) (arguments : List Json)
  | formatTyped (uri : Uri) (position : Position) (typed : String)
  | suggest (words : List String)

namespace Call

def document? (params : Json) : Option Uri :=
  params.member? "textDocument" Json.documentUri?

def onDocument? (build : Uri → Call) (params : Json) : Option Call :=
  (document? params).map build

def atPosition? (build : Uri → Position → Call) (params : Json) : Option Call := do
  return build (← document? params) (← params.member? "position" Position.ofJson?)

/-- A call whose parameters have a shape besides. -/
def shaped (shape : Shape) (read : Json → Option Call) (params : Json) : Option Call :=
  (params.fitting? shape).bind read

/-- Parameters of a call whose progress can be followed under a token. -/
def followed : Shape :=
  .object [("workDoneToken", .optional .token)]

/-- Parameters of a call that can also be answered in parts under a token. -/
def answeredInParts : Shape :=
  .object [("workDoneToken", .optional .token), ("partialResultToken", .optional .token)]

/-- What an editor tells about the reason of a completion. -/
def completionReason : Shape :=
  .record [("triggerKind", .signed), ("triggerCharacter", .optional .text)]

/-- What an editor tells about the quick fixes it wants; the diagnostics come first. -/
def quickFixContext? (json : Json) : Option (List Diagnostic) := do
  let json ← json.record? ["diagnostics", "only", "triggerKind"]
  let _ ← json.fitting?
    (.object [("only", .optional (.list .text)), ("triggerKind", .optional .signed)])
  json.member? "diagnostics" (Json.list? Diagnostic.ofJson?)

/-- The formatting options that every editor knows. -/
def formattingOptions : List (String × Shape) :=
  [ ("tabSize", .unsigned), ("insertSpaces", .flag), ("trimTrailingWhitespace", .optional .flag),
    ("insertFinalNewline", .optional .flag), ("trimFinalNewlines", .optional .flag) ]

/-- Formatting options.  All others are true or false, numbers or texts. -/
def formatting : Shape := fun json =>
  Shape.object formattingOptions json &&
    (json.members?.getD []).all fun member =>
      (formattingOptions.lookup member.1).isSome || Shape.either .flag .token member.2

def methods : List (String × (Json → Option Call)) :=
  [ ("shutdown", fun _ => some shutdown),
    ("textDocument/completion", shaped answeredInParts fun params => do
      let _ ← params.optional? "context" (Json.fitting? completionReason)
      atPosition? complete params),
    ("textDocument/definition", shaped answeredInParts (atPosition? define)),
    ("textDocument/references", shaped answeredInParts fun params => do
      let includeDeclaration ← params.member? "context" fun context => do
        (← context.record? ["includeDeclaration"]).member? "includeDeclaration" Json.bool?
      atPosition? (refer · · includeDeclaration) params),
    ("textDocument/hover", shaped followed (atPosition? hover)),
    ("textDocument/documentSymbol", shaped answeredInParts (onDocument? listSymbols)),
    ("textDocument/documentHighlight", shaped answeredInParts (atPosition? highlight)),
    ("textDocument/foldingRange", shaped answeredInParts (onDocument? fold)),
    ("textDocument/codeAction", shaped answeredInParts fun params => do
      let _ ← params.member? "range" Range.ofJson?
      let diagnostics ← params.member? "context" quickFixContext?
      onDocument? (quickFix · diagnostics) params),
    ("workspace/executeCommand", shaped followed fun params => do
      let arguments ← params.memberOr? "arguments" [] Json.array?
      return execute (← params.member? "command" Json.string?) arguments),
    ("textDocument/onTypeFormatting", fun params => do
      let _ ← params.member? "options" (Json.fitting? formatting)
      let typed ← params.member? "ch" Json.string?
      atPosition? (formatTyped · · typed) params),
    ("choicescript/suggestSpelling", fun params => do
      let params ← params.record? ["words"]
      return suggest (← params.member? "words" (Json.list? Json.string?))) ]

def ofRequest (method : String) (params : Json) : Except RequestFailure Call :=
  match methods.lookup method with
  | none => .error (.unknownMethod method)
  | some read =>
      match read params with
      | some call => .ok call
      | none => .error .unreadable

end Call

structure FileChange where
  uri : Uri
  isDeleted : Bool
deriving DecidableEq, Repr

namespace FileChange

def deletion : Int := 3

def ofJson? (json : Json) : Option FileChange := do
  let json ← json.record? ["uri", "type"]
  return ⟨← json.member? "uri" Json.uri?, (← json.member? "type" Json.signed32?) == deletion⟩

end FileChange

inductive ClientEvent where
  | opened (document : Document)
  | changed (uri : Uri) (version : Int) (changes : List TextChange)
  | closed (uri : Uri)
  | configured (settings : Json)
  | filesChanged (changes : List FileChange)
  | started
  | exit

namespace ClientEvent

def document? (json : Json) : Option Document := do
  let json ← json.record? ["uri", "languageId", "version", "text"]
  let uri ← json.member? "uri" Json.uri?
  let language ← json.member? "languageId" Json.string?
  let version ← json.member? "version" Json.signed32?
  return .ofText uri version (← json.member? "text" Json.string?) language

def version? (json : Json) : Option (Uri × Int) := do
  let json ← json.record? ["uri", "version"]
  return (← json.member? "uri" Json.uri?, ← json.member? "version" Json.signed32?)

def methods : List (String × (Json → Option ClientEvent)) :=
  [ ("textDocument/didOpen", fun params => do
      let params ← params.record? ["textDocument"]
      return opened (← params.member? "textDocument" document?)),
    ("textDocument/didChange", fun params => do
      let params ← params.record? ["textDocument", "contentChanges"]
      let (uri, version) ← params.member? "textDocument" version?
      return changed uri version
        (← params.member? "contentChanges" (Json.list? TextChange.ofJson?))),
    ("textDocument/didClose", fun params => do
      let params ← params.record? ["textDocument"]
      return closed (← params.member? "textDocument" Json.documentUri?)),
    ("workspace/didChangeConfiguration", fun params => do
      let params ← params.record? ["settings"]
      return configured (← params.get? "settings")),
    ("workspace/didChangeWatchedFiles", fun params => do
      let params ← params.record? ["changes"]
      return filesChanged (← params.member? "changes" (Json.list? FileChange.ofJson?))),
    ("initialized", fun _ => some started),
    ("exit", fun _ => some exit) ]

/-- What a notification tells, if it can be read. -/
def ofNotification? (method : String) (params : Json) : Option ClientEvent :=
  (methods.lookup method).bind (· params)

end ClientEvent

end Gamebook
