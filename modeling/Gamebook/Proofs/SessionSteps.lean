import Gamebook.Proofs.SessionWork

/-!
# What an event leads to

Of all events only four kinds touch the tables of documents: a document is opened, changed or
closed, or the tasks that are due are taken.  Work follows.  After any other event either the
same is shown as before, or every open document is validated.  So much is said here once of all
events, and what an event preserves is shown for these few cases only.
-/

namespace Gamebook

/-- An event, when it happens, and what the disk holds then, whoever wrote it. -/
structure Moment where
  files : FileTree
  now : Nat
  event : Session.Event

namespace Moment

def told? (moment : Moment) : Option ClientEvent :=
  match moment.event with
  | .message (.notification method params) => ClientEvent.ofNotification? method params
  | _ => none

/-- A document is opened, perhaps again. -/
def Opens (moment : Moment) (uri : Uri) : Prop :=
  ∃ document, moment.told? = some (.opened document) ∧ document.uri = uri

def Closes (moment : Moment) (uri : Uri) : Prop :=
  moment.told? = some (.closed uri)

end Moment

namespace Session

def pass (session : Session) (moment : Moment) : Session :=
  (session.handle moment.files moment.now moment.event).1

def passAll (session : Session) (history : List Moment) : Session :=
  history.foldl pass session

theorem passAll_concat (session : Session) (history : List Moment) (moment : Moment) :
    session.passAll (history ++ [moment]) = (session.passAll history).pass moment := by
  rw [passAll, List.foldl_append, passAll]
  rfl

/-! ## Turns -/

/-- The index with a document that has been opened, and the scenes beside it if it is the
first of its project. -/
def openingIndex (session : Session) (files : FileTree) (document : Document) : ProjectIndex :=
  (if session.workspace.index.hasProject (Uri.project document.uri) = true then
    session.workspace.index
  else (session.loadProject files document.uri).workspace.index).insert document

/-- The index with a document as it is on disk. -/
def closingIndex (session : Session) (files : FileTree) (uri : Uri) : ProjectIndex :=
  match readScene? files uri with
  | some document => session.workspace.index.insert document
  | none => session.workspace.index.purge [uri]

/-- The session as a document has come, before it is validated. -/
def withOpened (session : Session) (files : FileTree) (document : Document) : Session :=
  { session.withIndex (session.openingIndex files document) with
    documents := session.documents.insert document
    lifecycle := session.lifecycle.opened document.uri }

theorem publicationsFor_withOpened (session : Session) (files : FileTree) (document : Document)
    (uri : Uri) :
    (session.withOpened files document).publicationsFor uri = session.publicationsFor uri :=
  rfl

/-- The session as a document has other text, to be validated and indexed later. -/
def withChanged (session : Session) (now : Nat) (uri : Uri) (document : Document) : Session :=
  { session with
    documents := session.documents.insert document
    lifecycle := session.lifecycle.changed uri
    schedule := (session.schedule.schedule ⟨uri, .validate⟩ now).schedule ⟨uri, .index⟩ now }

/-- The session as a document has gone, before the others of its project are validated. -/
def withClosed (session : Session) (files : FileTree) (uri : Uri) : Session :=
  { session.withIndex (session.closingIndex files uri) with
    schedule := session.schedule.cancelDocument uri
    documents := session.documents.erase uri
    lifecycle := session.lifecycle.disposed uri }.send (.publish ⟨uri, [], none⟩)

/-- The session as the tasks due at `now` have been taken, before they run. -/
def withTaken (session : Session) (now : Nat) : Session :=
  { session with schedule := (session.schedule.takeDue now).1 }

theorem openDocument_eq (session : Session) (files : FileTree) (document : Document) :
    session.openDocument files document =
      (session.withOpened files document).validate files document.uri := by
  unfold openDocument withOpened openingIndex
  simp only
  split <;> rfl

theorem changeDocument_cases (session : Session) (now : Nat) (uri : Uri) (version : Int)
    (changes : List TextChange) :
    session.changeDocument now uri version changes = session ∨
    ∃ document, session.documents.get? uri = some document ∧
      session.changeDocument now uri version changes =
        session.withChanged now uri (OpenDocuments.changed document version changes) := by
  unfold changeDocument OpenDocuments.change?
  cases session.documents.get? uri with
  | none => exact .inl rfl
  | some document => exact .inr ⟨document, rfl, rfl⟩

theorem closeDocument_eq (session : Session) (files : FileTree) (uri : Uri) :
    session.closeDocument files uri =
      (session.withClosed files uri).revalidateProject files uri := by
  unfold closeDocument indexFromDisk withClosed closingIndex
  simp only
  cases readScene? files uri <;> rfl

variable {before middle after : Session} {index : ProjectIndex}

/-! ## Events that are not about documents -/

/-- The same is shown as before. -/
structure Rests (before after : Session) : Prop extends Apart before after where
  index : after.workspace.index = before.workspace.index
  changes : after.changes = before.changes
  alike : before.Listens → before.workspace.ShowsAlike after.workspace

namespace Rests

theorem refl (session : Session) : Rests session session :=
  ⟨.refl session, rfl, rfl, fun _ => .refl session.workspace⟩

theorem withSpelling (session : Session) (files : FileTree) :
    Rests session { session with workspace := session.workspace.withSpelling files } where
  toApart := .ofWorkspace session (session.workspace.store_withSpelling files)
  index := session.workspace.index_withSpelling files
  changes := rfl
  alike := fun _ => session.workspace.showsAlike_withSpelling files

theorem send (rests : Rests before after) {message : Outgoing}
    (noPublication : message.publication? = none) : Rests before (after.send message) :=
  { rests with toApart := rests.toApart.trans (.send after noPublication) }

end Rests

/-- Something is written, but of the documents and the index only the given index; then every
open document is validated, perhaps more than once. -/
inductive Refreshes (index : ProjectIndex) (session : Session) : Session → Prop where
  | validated {middle : Session} (apart : Apart session middle)
      (indexEq : middle.workspace.index = index) (files : FileTree) :
      Refreshes index session (middle.revalidateAll files)
  | again {after : Session} (refreshes : Refreshes index session after) (files : FileTree) :
      Refreshes index session (after.revalidateAll files)
  | sent {after : Session} (refreshes : Refreshes index session after) {message : Outgoing}
      (noPublication : message.publication? = none) :
      Refreshes index session (after.send message)

theorem Apart.works (apart : Apart before after) :
    Works [.index, .changes, .tasks] before after :=
  .ofApart apart (by simp) (by simp)

namespace Refreshes

theorem works (refreshes : Refreshes index before after) :
    Works [.index, .changes, .tasks] before after := by
  induction refreshes with
  | validated apart _ files =>
      exact apart.works.trans ((revalidateAll_works _ files).mono (by simp))
  | again _ files work => exact work.trans ((revalidateAll_works _ files).mono (by simp))
  | sent _ noPublication work => exact work.trans (Apart.send _ noPublication).works

theorem index_eq (refreshes : Refreshes index before after) : after.workspace.index = index := by
  induction refreshes with
  | validated _ indexEq files =>
      exact ((revalidateAll_works _ files).index (by simp)).trans indexEq
  | again _ files same => exact ((revalidateAll_works _ files).index (by simp)).trans same
  | sent _ _ same => exact same

end Refreshes

/-! ### Settings -/

/-- Either the session is told of other settings, or the same is shown with them. -/
theorem replace_cases {session : Session} (listens : session.Listens) (settings : Settings) :
    (session.updateSettings (·.replace settings)).changes ≠ [] ∨
      Rests session (session.updateSettings (·.replace settings)) := by
  have apart : Apart session (session.updateSettings (·.replace settings)) :=
    ⟨rfl, id, rfl, rfl, rfl⟩
  cases isEmpty : (SettingsChange.between session.workspace.settings settings).isEmpty with
  | true =>
      right
      have ⟨sameDiagnostics, sameFeatures⟩ :
          session.workspace.settings.diagnostics.normal = settings.diagnostics.normal ∧
            session.workspace.settings.features = settings.features := by
        simpa [SettingsChange.isEmpty, SettingsChange.between] using isEmpty
      have untold : (session.workspace.store.replace settings).2 = [] := if_pos isEmpty
      exact ⟨apart, rfl, by simp [updateSettings, untold],
        fun _ => Workspace.showsAlike_replace sameDiagnostics sameFeatures⟩
  | false =>
      left
      have told : (session.workspace.store.replace settings).2 =
          session.workspace.store.listeners.map
            (⟨·, SettingsChange.between session.workspace.settings settings⟩) :=
        if_neg (Bool.eq_false_iff.1 isEmpty)
      simp only [updateSettings, told, ne_eq, List.append_eq_nil_iff, List.map_eq_nil_iff,
        List.filter_eq_nil_iff, not_and, not_forall]
      intro _
      exact ⟨_, List.mem_map.2 ⟨session.listener, listens, rfl⟩, by simp⟩

theorem drainChanges_cases (session : Session) (files : FileTree) :
    (session.changes = [] ∧ session.drainChanges files = session) ∨
      ∀ before, Apart before session →
        Refreshes session.workspace.index before (session.drainChanges files) := by
  unfold drainChanges
  cases changesEq : session.changes with
  | nil => exact .inl ⟨rfl, by rw [List.foldl_nil, ← changesEq]⟩
  | cons change rest =>
      right
      intro before apart
      have emptied : Apart session { session with changes := [] } := ⟨rfl, id, rfl, rfl, rfl⟩
      have again (changes : List SettingsChange) {after : Session}
          (refreshes : Refreshes session.workspace.index before after) :
          Refreshes session.workspace.index before
            (changes.foldl (fun session _ => session.revalidateAll files) after) := by
        induction changes generalizing after with
        | nil => exact refreshes
        | cons _ _ ih => exact ih (refreshes.again files)
      exact again rest (.validated (apart.trans emptied) rfl files)

theorem configure_cases (session : Session) (files : FileTree) (settings : Json) :
    Rests session (session.configure files settings) ∨
      Refreshes session.workspace.index session (session.configure files settings) := by
  unfold configure
  cases Settings.ofJson? settings with
  | none =>
      rcases session.drainChanges_cases files with ⟨_, unchanged⟩ | refreshes
      · simp only [unchanged]
        exact .inl (.refl session)
      · exact .inr (refreshes session (.refl session))
  | some settings =>
      have apart : Apart session (session.updateSettings (·.replace settings)) :=
        ⟨rfl, id, rfl, rfl, rfl⟩
      rcases (session.updateSettings (·.replace settings)).drainChanges_cases files with
        ⟨noChanges, unchanged⟩ | refreshes
      · left
        simp only [unchanged]
        have hadNone : session.changes = [] := (List.append_eq_nil_iff.1 noChanges).1
        refine ⟨apart, rfl, noChanges.trans hadNone.symm, ?_⟩
        intro listens
        have rests := (replace_cases listens settings).resolve_left (not_not_intro noChanges)
        exact rests.alike listens
      · exact .inr (refreshes session apart)

/-! ### Files -/

theorem followFile_apart (session : Session) (files : FileTree) (change : FileChange) :
    Apart session (session.followFile files change) := by
  refine .ofWorkspace session ?_
  cases change.isDeleted <;> rfl

theorem followFiles_cases (session : Session) (files : FileTree) (changes : List FileChange) :
    Rests session (session.followFiles files changes) ∨
      Refreshes
        ((changes.filter session.concerns).foldl (·.followFile files ·) session).workspace.index
        session (session.followFiles files changes) := by
  have followed (changes : List FileChange) (session : Session) :
      Apart session (changes.foldl (·.followFile files ·) session) := by
    induction changes generalizing session with
    | nil => exact .refl session
    | cons change rest ih => exact (session.followFile_apart files change).trans (ih _)
  unfold followFiles
  simp only
  split
  · exact .inl (.refl session)
  · exact .inr (.validated (followed _ session) rfl files)

/-! ### Requests -/

theorem execute_cases (session : Session) (files : FileTree) (command : String)
    (arguments : List Json) :
    Rests session (session.execute files command arguments).1 ∨
      Refreshes session.workspace.index session (session.execute files command arguments).1 := by
  obtain ⟨sameStore, sameIndex, _⟩ := session.workspace.execute_frame files command arguments
  have apart := Apart.ofWorkspace session sameStore
  have rests (notNew : (session.workspace.execute files command arguments).outcome ≠ .ok true) :
      Rests session { session with
        workspace := (session.workspace.execute files command arguments).workspace } :=
    ⟨apart, sameIndex, rfl, fun _ => Workspace.showsAlike_execute notNew⟩
  unfold execute
  simp only
  split
  · exact .inr (.validated apart sameIndex _)
  · rename_i outcomeEq
    exact .inl (rests (by simp [outcomeEq]))
  · rename_i outcomeEq
    exact .inl (rests (by simp [outcomeEq]))

theorem answer_cases (session : Session) (files : FileTree) (call : Call) :
    Rests session (session.answer files call).1 ∨
      Refreshes session.workspace.index session (session.answer files call).1 := by
  cases call with
  | quickFix uri diagnostics =>
      left
      simp only [answer, quickFix]
      split
      · exact .withSpelling session files
      · exact .refl session
  | suggest words => exact .inl (.withSpelling session files)
  | execute command arguments => exact session.execute_cases files command arguments
  | _ => exact .inl (.refl session)

theorem respond_cases (session : Session) (files : FileTree) (id : RequestId) (method : String)
    (params : Json) :
    Rests session (session.respond files id method params).1 ∨
      Refreshes session.workspace.index session (session.respond files id method params).1 := by
  unfold respond
  split
  · exact .inl (Rests.send (.refl session) rfl)
  · rename_i call _
    exact (session.answer_cases files call).imp (·.send rfl) (·.sent rfl)

/-! ## All events -/

/-- The session that an event leads to. -/
inductive Reacts (session : Session) (moment : Moment) : Session → Prop where
  | opened (document : Document) (told : moment.told? = some (.opened document)) :
      Reacts session moment
        ((session.withOpened moment.files document).validate moment.files document.uri)
  | changed {uri : Uri} {document : Document} (version : Int) (changes : List TextChange)
      (isOpen : session.documents.get? uri = some document) :
      Reacts session moment
        (session.withChanged moment.now uri (OpenDocuments.changed document version changes))
  | closed (uri : Uri) :
      Reacts session moment
        ((session.withClosed moment.files uri).revalidateProject moment.files uri)
  | due :
      Reacts session moment ((session.schedule.takeDue moment.now).2.foldl
        (·.runTask moment.files ·) (session.withTaken moment.now))
  | rested {after : Session} (rests : Rests session after) : Reacts session moment after
  | refreshed {after : Session} (refreshes : Refreshes session.workspace.index session after) :
      Reacts session moment after
  | followed {after : Session} (changes : List FileChange)
      (told : moment.told? = some (.filesChanged changes))
      (refreshes : Refreshes
        ((changes.filter session.concerns).foldl (·.followFile moment.files ·)
          session).workspace.index session after) :
      Reacts session moment after

theorem Reacts.ofCases {session : Session} {moment : Moment}
    (cases : Rests session after ∨ Refreshes session.workspace.index session after) :
    Reacts session moment after :=
  cases.elim .rested .refreshed

theorem pass_of_told (session : Session) {moment : Moment} {event : ClientEvent}
    (told : moment.told? = some event) :
    session.pass moment = session.notify moment.files moment.now event := by
  unfold Moment.told? at told
  split at told
  · rename_i method params eventEq
    rw [pass, eventEq]
    simp only [handle, told]
  · simp at told

theorem reacts_notify (session : Session) {moment : Moment} {event : ClientEvent}
    (told : moment.told? = some event) :
    Reacts session moment (session.notify moment.files moment.now event) := by
  cases event with
  | opened document =>
      rw [notify, openDocument_eq]
      exact .opened document told
  | changed uri version changes =>
      rw [notify]
      rcases session.changeDocument_cases moment.now uri version changes with
        unchanged | ⟨document, isOpen, changeEq⟩
      · rw [unchanged]
        exact .rested (.refl session)
      · rw [changeEq]
        exact .changed version changes isOpen
  | closed uri =>
      rw [notify, closeDocument_eq]
      exact .closed uri
  | configured settings => exact .ofCases (session.configure_cases moment.files settings)
  | filesChanged changes =>
      exact (session.followFiles_cases moment.files changes).elim .rested (.followed changes told)
  | started => exact .rested (Rests.send (.refl session) rfl)
  | exit =>
      exact .rested ⟨⟨rfl, id, rfl, rfl, rfl⟩, rfl, rfl, fun _ => .refl session.workspace⟩

theorem reacts_pass (session : Session) (moment : Moment) :
    Reacts session moment (session.pass moment) := by
  cases told : moment.told? with
  | some event =>
      rw [session.pass_of_told told]
      exact session.reacts_notify told
  | none =>
      obtain ⟨files, now, event⟩ := moment
      cases event with
      | tick => exact .due
      | settingsChanged change => exact .refreshed (.validated (.refl session) rfl files)
      | message message =>
          cases message with
          | request id method params =>
              exact .ofCases (session.respond_cases files id method params)
          | response id => exact .rested (.refl session)
          | notification method params =>
              have unread : ClientEvent.ofNotification? method params = none := told
              simp only [pass, handle, unread]
              exact .rested (.refl session)

end Session

end Gamebook
