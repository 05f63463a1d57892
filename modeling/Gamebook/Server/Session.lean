import Gamebook.Protocol.Call
import Gamebook.Server.Lifecycle
import Gamebook.Server.OpenDocuments
import Gamebook.Server.Schedule
import Gamebook.Server.Workspace
import Gamebook.Settings.Codec

/-!
# Sessions

A session is the dialogue with one client.  Notifications change its documents, settings and index,
requests are answered from them, and diagnostics are published whenever they may have changed: at
once when a document is opened, and some time after the last of a burst of changes.
-/

namespace Gamebook

/-- A scene file as it is on disk.  Texts from disk have version zero. -/
def readScene? (files : FileTree) (uri : Uri) : Option Document := do
  let path ← Uri.path? uri
  let text ← (files.read path).toOption
  some (.ofText uri 0 text)

/-- The URIs of the scene files in the directory of a document. -/
def sceneFilesBeside (files : FileTree) (uri : Uri) : List Uri :=
  let names := do
    let path ← Uri.path? uri
    files.names? (← path.parent?)
  ((names.getD []).filter fun name => Uri.isSceneFile name).map (Uri.project uri ++ ·)
    |>.filter fun sibling => Uri.isValid sibling

structure Session where
  workspace : Workspace
  /-- The listener that collects the changes of settings. -/
  listener : ListenerId
  /-- Changes of settings that have not been acted on. -/
  changes : List SettingsChange := []
  documents : OpenDocuments := {}
  schedule : Schedule := {}
  lifecycle : Lifecycle := {}
  exitRequested : Bool := false
  /-- What has been sent, the oldest first. -/
  outbox : List Outgoing := []

namespace Session

def start (workspace : Workspace) : Session :=
  let (store, listener) := workspace.store.subscribe
  { workspace := { workspace with store }, listener }

def send (session : Session) (message : Outgoing) : Session :=
  { session with outbox := session.outbox ++ [message] }

/-- The session with nothing sent, and what it had sent. -/
def takeOutbox (session : Session) : Session × List Outgoing :=
  ({ session with outbox := [] }, session.outbox)

/-! ## Validation -/

/-- The diagnostics of a document; none while diagnostics are off. -/
def diagnose (session : Session) (files : FileTree) (document : Document) :
    Session × List Diagnostic :=
  if session.workspace.isOn .diagnostics then
    let (workspace, diagnostics) := session.workspace.diagnose files document
    ({ session with workspace }, diagnostics)
  else
    (session, [])

def validate (session : Session) (files : FileTree) (uri : Uri) : Session :=
  match session.documents.get? uri, session.lifecycle.begin? uri with
  | some document, some lifecycle =>
      let (session, diagnostics) := diagnose { session with lifecycle } files document
      match session.lifecycle.finish? uri with
      | some lifecycle =>
          { session with lifecycle }.send (.publish ⟨uri, diagnostics, some document.version⟩)
      | none => session
  | _, _ => session

def revalidateProject (session : Session) (files : FileTree) (uri : Uri) : Session :=
  (session.documents.uris.filter fun other =>
    other != uri && Uri.project other == Uri.project uri).foldl (·.validate files ·) session

def validateNow (session : Session) (files : FileTree) (uri : Uri) : Session :=
  { session with schedule := session.schedule.cancel ⟨uri, .validate⟩ }.validate files uri

def revalidateAll (session : Session) (files : FileTree) : Session :=
  session.documents.uris.foldl (·.validateNow files ·) session

/-! ## Settings -/

/-- Changes the settings and collects what is told to this session. -/
def updateSettings (session : Session)
    (update : SettingsStore → SettingsStore × List Notice) : Session :=
  let (store, notices) := update session.workspace.store
  { session with
    workspace := { session.workspace with store }
    changes := session.changes ++
      (notices.filter (·.listener == session.listener)).map (·.change) }

def drainChanges (session : Session) (files : FileTree) : Session :=
  session.changes.foldl (fun session _ => session.revalidateAll files)
    { session with changes := [] }

/-! ## Notifications -/

/-- Indexes the scene files beside a document, unless they are open. -/
def loadProject (session : Session) (files : FileTree) (uri : Uri) : Session :=
  let siblings := (sceneFilesBeside files uri).filter fun sibling =>
    sibling != uri && !session.documents.contains sibling
  { session with
    workspace := session.workspace.updateIndex (siblings.filterMap (readScene? files)) }

/-- A document was opened.  The first of a project brings in the scenes beside it. -/
def openDocument (session : Session) (files : FileTree) (document : Document) : Session :=
  let uri := document.uri
  let session :=
    if session.workspace.index.hasProject (Uri.project uri) then session
    else session.loadProject files uri
  { session with
    documents := session.documents.insert document
    workspace := session.workspace.updateIndex [document]
    lifecycle := session.lifecycle.opened uri }.validate files uri

/-- An open document was changed: it is validated and indexed later. -/
def changeDocument (session : Session) (now : Nat) (uri : Uri) (version : Int)
    (changes : List TextChange) : Session :=
  match session.documents.change? uri version changes with
  | none => session
  | some (documents, _) =>
      { session with
        documents
        lifecycle := session.lifecycle.changed uri
        schedule := (session.schedule.schedule ⟨uri, .validate⟩ now).schedule ⟨uri, .index⟩ now }

/-- The index follows a file on disk; none of it is left when the file cannot be read. -/
def indexFromDisk (session : Session) (files : FileTree) (uri : Uri) : Session :=
  match readScene? files uri with
  | some document => { session with workspace := session.workspace.updateIndex [document] }
  | none => { session with workspace := session.workspace.purgeIndex [uri] }

/-- A document was closed: it stays in its project as it is on disk. -/
def closeDocument (session : Session) (files : FileTree) (uri : Uri) : Session :=
  let session :=
    { session with
      schedule := session.schedule.cancelDocument uri
      documents := session.documents.erase uri
      lifecycle := session.lifecycle.disposed uri }.send (.publish ⟨uri, [], none⟩)
  (session.indexFromDisk files uri).revalidateProject files uri

/-- New settings came; unreadable ones are passed over. -/
def configure (session : Session) (files : FileTree) (settings : Json) : Session :=
  let session :=
    match Settings.ofJson? settings with
    | some settings => session.updateSettings (·.replace settings)
    | none => session
  session.drainChanges files

/-- Whether a change on disk concerns the index: of a scene file that is not open. -/
def concerns (session : Session) (change : FileChange) : Bool :=
  Uri.isSceneFile change.uri && !session.documents.contains change.uri

/-- The index follows a change on disk; a file that cannot be read keeps its entry. -/
def followFile (session : Session) (files : FileTree) (change : FileChange) : Session :=
  let workspace :=
    if change.isDeleted then session.workspace.purgeIndex [change.uri]
    else session.workspace.updateIndex (readScene? files change.uri).toList
  { session with workspace }

def followFiles (session : Session) (files : FileTree) (changes : List FileChange) : Session :=
  let changes := changes.filter session.concerns
  if changes.isEmpty then session
  else (changes.foldl (·.followFile files ·) session).revalidateAll files

/-- The number by which a client is asked to tell of creations, changes and deletions. -/
def everyFileChange : Nat := 7

def watchRequest : Outgoing :=
  let watcher := Json.object
    [("globPattern", .string ("**/*" ++ sceneExtension)), ("kind", .nat everyFileChange)]
  let registration := Json.object
    [ ("id", .string "file-watcher"), ("method", .string "workspace/didChangeWatchedFiles"),
      ("registerOptions", .object [("watchers", .array [watcher])]) ]
  .request "register-file-watchers" "client/registerCapability"
    (.object [("registrations", .array [registration])])

def notify (session : Session) (files : FileTree) (now : Nat) : ClientEvent → Session
  | .opened document => session.openDocument files document
  | .changed uri version changes => session.changeDocument now uri version changes
  | .closed uri => session.closeDocument files uri
  | .configured settings => session.configure files settings
  | .filesChanged changes => session.followFiles files changes
  | .started => session.send watchRequest
  | .exit => { session with exitRequested := true }

/-! ## Requests -/

/-- The answer about an open document while a feature is on, and null otherwise. -/
def answerOn (session : Session) (feature : Feature) (uri : Uri)
    (query : Document → Option Json) : Json :=
  if session.workspace.isOn feature then ((session.documents.get? uri).bind query).getD .null
  else .null

/-- Runs a command; when a dictionary changes, every open document is validated. -/
def execute (session : Session) (files : FileTree) (command : String) (arguments : List Json) :
    Session × FileTree × Except RequestFailure Json :=
  let accepted := session.workspace.execute files command arguments
  let session := { session with workspace := accepted.workspace }
  match accepted.outcome with
  | .ok true => (session.revalidateAll accepted.files, accepted.files, .ok .null)
  | .ok false => (session, accepted.files, .ok .null)
  | .error error => (session, accepted.files, .error (.refused error.message))

def quickFix (session : Session) (files : FileTree) (uri : Uri) (diagnostics : List Diagnostic) :
    Session × Json :=
  match session.workspace.isOn .diagnostics, session.documents.get? uri with
  | true, some document =>
      let (workspace, fixes) := session.workspace.quickFixes? files document diagnostics
      ({ session with workspace }, .ofOption (·.toJson uri) fixes)
  | _, _ => (session, .null)

def answer (session : Session) (files : FileTree) :
    Call → Session × FileTree × Except RequestFailure Json
  | .shutdown => (session, files, .ok .null)
  | .complete uri position =>
      (session, files, .ok (session.answerOn .completionItems uri fun document =>
        (session.workspace.complete? document position).map (·.toJson)))
  | .define uri position =>
      (session, files, .ok (session.answerOn .definitions uri fun document =>
        (session.workspace.definition? document position).map (·.toJson)))
  | .refer uri position includeDeclaration =>
      (session, files, .ok (session.answerOn .references uri fun document =>
        (session.workspace.references? document position includeDeclaration).map
          (.ofList (·.toJson))))
  | .hover uri position =>
      (session, files, .ok (session.answerOn .hovers uri fun document =>
        (session.workspace.hover? document position).map (·.toJson)))
  | .listSymbols uri =>
      (session, files, .ok (session.answerOn .documentSymbols uri fun document =>
        (session.workspace.symbols? document false).map (.ofList (·.toJson))))
  | .highlight uri position =>
      (session, files, .ok (session.answerOn .documentHighlights uri fun document =>
        (session.workspace.highlights? document position).map (.ofList (·.toJson))))
  | .fold uri =>
      (session, files, .ok (session.answerOn .foldingRanges uri fun document =>
        (session.workspace.folds? document).map (.ofList (·.toJson))))
  | .formatTyped uri position typed =>
      (session, files, .ok (session.answerOn .autoFormat uri fun document =>
        (document.scene.formatTyped? position typed).map (.ofList (·.toJson))))
  | .quickFix uri diagnostics =>
      let (session, fixes) := session.quickFix files uri diagnostics
      (session, files, .ok fixes)
  | .suggest words =>
      let (workspace, suggestions) := session.workspace.suggest files words
      ({ session with workspace }, files, .ok (.ofList (.ofList .string) suggestions))
  | .execute command arguments => session.execute files command arguments

def respond (session : Session) (files : FileTree) (id : RequestId) (method : String)
    (params : Json) : Session × FileTree :=
  match Call.ofRequest method params with
  | .error failure => (session.send (.response id (.error failure)), files)
  | .ok call =>
      let (session, files, outcome) := session.answer files call
      (session.send (.response id outcome), files)

/-! ## Events -/

def runTask (session : Session) (files : FileTree) (task : DelayedTask) : Session :=
  match task.kind with
  | .validate => session.validate files task.uri
  | .index =>
      match session.documents.get? task.uri with
      | none => session
      | some document =>
          { session with
            workspace := session.workspace.updateIndex [document] }.revalidateProject files task.uri

def runDue (session : Session) (files : FileTree) (now : Nat) : Session :=
  let (schedule, tasks) := session.schedule.takeDue now
  tasks.foldl (·.runTask files ·) { session with schedule }

inductive Event where
  | message (message : Message)
  | settingsChanged (change : SettingsChange)
  | tick

def handle (session : Session) (files : FileTree) (now : Nat) : Event → Session × FileTree
  | .message (.request id method params) => session.respond files id method params
  | .message (.notification method params) =>
      match ClientEvent.ofNotification? method params with
      | some event => (session.notify files now event, files)
      | none => (session, files)
  | .message (.response _) => (session, files)
  | .settingsChanged _ => (session.revalidateAll files, files)
  | .tick => (session.runDue files now, files)

/-- Handles messages in order until the client wants the server to exit. -/
def run (session : Session) (files : FileTree) (now : Nat) : List Message → Session × FileTree
  | [] => (session, files)
  | message :: rest =>
      if session.exitRequested then
        (session, files)
      else
        let (session, files) := session.handle files now (.message message)
        session.run files now rest

end Session

end Gamebook
