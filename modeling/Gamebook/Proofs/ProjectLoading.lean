import Gamebook.Proofs.EditorEntries
import Gamebook.Proofs.ReferenceAgreement
import Gamebook.Proofs.SceneFiles
import Gamebook.Server.Connection

/-!
# Projects and the files on disk

The first opening of a document of a project brings in the scene files beside it.  From
then on the index has every scene file of the directory, as long as the disk stays as it
is: no event but a deletion takes an entry away that can be read from disk.  So a jump
to a scene that is there is not reported.

Files are only brought in while nothing of the project is indexed.  A change on disk that
is told before the first opening indexes its own file, and then the others are left out.
-/

namespace Gamebook

namespace ProjectIndex

variable {index : ProjectIndex} {uri : Uri}

/-- The index has an entry of a document, filed under the URI of the document. -/
def Indexed (index : ProjectIndex) (uri : Uri) : Prop :=
  ∃ document, document.uri = uri ∧ index.get? uri = some (.ofDocument document)

theorem indexed_insert {document : Document} :
    (index.insert document).Indexed uri ↔ document.uri = uri ∨ index.Indexed uri := by
  by_cases isOwn : uri = document.uri
  · refine iff_of_true ⟨document, isOwn.symm, ?_⟩ (.inl isOwn.symm)
    rw [get?_insert, if_pos isOwn]
  · simp only [Indexed, get?_insert, if_neg isOwn, Ne.symm isOwn, false_or]

theorem indexed_update {documents : List Document} :
    (index.update documents).Indexed uri ↔
      (∃ document ∈ documents, document.uri = uri) ∨ index.Indexed uri := by
  induction documents generalizing index with
  | nil => simp [update]
  | cons document rest ih =>
      rw [update, List.foldl_cons, ← update, ih, indexed_insert, or_left_comm]
      simp only [List.mem_cons, exists_eq_or_imp, or_assoc]

theorem Indexed.purge_of_ne (indexed : index.Indexed uri) {other : Uri}
    (different : uri ≠ other) : (index.purge [other]).Indexed uri := by
  obtain ⟨document, uriEq, entryEq⟩ := indexed
  exact ⟨document, uriEq, (get?_purge_of_ne different).trans entryEq⟩

theorem Indexed.hasProject (indexed : index.Indexed uri) :
    index.hasProject (Uri.project uri) = true := by
  obtain ⟨document, _, entryEq⟩ := indexed
  rw [← Bool.not_eq_false, hasProject_eq_false_iff]
  intro nothing
  simp [nothing uri rfl] at entryEq

theorem Indexed.document?_snapshot (indexed : index.Indexed uri) :
    ((index.snapshot (Uri.project uri)).document? uri).isSome = true := by
  obtain ⟨document, _, entryEq⟩ := indexed
  rw [ProjectIndex.document?_snapshot, if_pos rfl, entryEq, Option.isSome_some]

/-- A scene that is indexed for the project of a document is known from the document. -/
theorem Indexed.hasScene (indexed : index.Indexed uri) {document : Document}
    (sameProject : Uri.project uri = Uri.project document.uri) :
    (index.around document).scope.hasScene uri.sceneName = true := by
  have known : ∃ entry, (index.around document).document? uri = some entry ∧ entry.uri = uri := by
    obtain ⟨indexedDocument, uriEq, entryEq⟩ := indexed
    rw [document?_around_eq, if_pos sameProject]
    by_cases isOwn : uri = document.uri
    · exact ⟨.ofDocument document, if_pos isOwn, isOwn.symm⟩
    · exact ⟨.ofDocument indexedDocument, (if_neg isOwn).trans entryEq, uriEq⟩
  obtain ⟨entry, found, uriEq⟩ := known
  have isScene := ProjectSnapshot.mem_scenes_iff.2 ⟨uri, found⟩
  refine ProjectSnapshot.contains_sceneNames_iff.2 (.inl ?_)
  exact ProjectSnapshot.scene?_isSome_iff.2 ⟨entry, isScene, congrArg Uri.sceneName uriEq⟩

end ProjectIndex

/-! ## Reports on jumps -/

theorem Workspace.reported_reports_iff {workspace : Workspace} {document : Document} {rule : Rule}
    {span : Span} (isOnReference : rule.isOnReference = true) :
    Reported (workspace.reports document) rule span ↔
      Reported (validate document.scene
        ⟨document.uri.sceneName, (workspace.around document).scope⟩
        workspace.settings.diagnostics.validation) rule span := by
  have noSpelling : ∀ report ∈ (workspace.checker?.map (·.check document.scene)).getD [],
      report.rule.isOnReference = false := by
    intro report isReport
    cases checkerEq : workspace.checker? with
    | none => simp [checkerEq] at isReport
    | some checker =>
        simp only [checkerEq, Option.map_some, Option.getD_some, SpellChecker.check,
          List.mem_flatMap, List.mem_map] at isReport
        obtain ⟨_, _, _, _, rfl⟩ := isReport
        rfl
  have sorted (reports : List Report) :
      Reported (reports.mergeSort reportBefore) rule span ↔ Reported reports rule span := by
    simp only [Reported, List.mem_mergeSort]
  rw [reports, sorted, reported_append_iff]
  simp only [not_reported_of_rule isOnReference noSpelling, or_false]

/-- A jump to a scene that is known is not reported, whatever the settings are. -/
theorem not_reported_of_hasScene {scene : Scene} {context : CheckContext}
    {options : ValidationOptions} {occurrence : Occurrence}
    (isOccurrence : occurrence ∈ scene.occurrences)
    (isJump : occurrence.role = .sceneReference false)
    (hasScene : context.project.hasScene occurrence.name = true) :
    ¬ Reported (validate scene context options) .unresolvedScene occurrence.span := by
  rintro ⟨report, isReport, ruleEq, spanEq⟩
  have allOn : ∀ rule, (ValidationOptions.severityFor {} rule).isSome = true := by decide
  -- settings only leave reports out, so the report stands when all rules are on
  have reported : Reported (allReports scene context) .unresolvedScene occurrence.span := by
    rw [validate, List.mem_mergeSort, List.mem_filterMap] at isReport
    obtain ⟨original, isOriginal, adjusted⟩ := isReport
    obtain ⟨severity, _, rfl⟩ := Option.map_eq_some_iff.1 adjusted
    exact ⟨original, isOriginal, ruleEq, spanEq⟩
  rw [← reported_validate_iff allOn, reported_reference_iff allOn isOccurrence rfl] at reported
  simp [referenceViolation?, isJump, isExistingScene, hasScene] at reported

/-! ## What a client can tell -/

theorem Json.isValid_of_uri? {json : Json} {uri : Uri} (isRead : json.uri? = some uri) :
    Uri.isValid uri = true := by
  obtain ⟨text, _, uriEq⟩ := Option.bind_eq_some_iff.1 isRead
  split at uriEq
  · rename_i isValid
    exact Option.some.inj uriEq ▸ isValid
  · simp at uriEq

theorem ClientEvent.isValid_of_document? {json : Json} {document : Document}
    (isRead : document? json = some document) : Uri.isValid document.uri = true := by
  simp only [document?, Option.bind_eq_bind, Option.bind_eq_some_iff] at isRead
  obtain ⟨_, _, uri, uriRead, _, _, _, _, _, _, documentEq⟩ := isRead
  obtain ⟨_, _, isUri⟩ := Option.bind_eq_some_iff.1 uriRead
  rw [← Option.some.inj documentEq]
  exact Json.isValid_of_uri? isUri

/-- Only documents with valid URIs are opened. -/
theorem Moment.Opens.isValid {moment : Moment} {uri : Uri} (opens : moment.Opens uri) :
    Uri.isValid uri = true := by
  obtain ⟨document, told, rfl⟩ := opens
  unfold told? at told
  split at told
  · rename_i method params _
    obtain ⟨read, isMethod, isRead⟩ := Option.bind_eq_some_iff.1 told
    have isListed : (method, read) ∈ ClientEvent.methods := by
      obtain ⟨before, after, methodsEq, _⟩ := List.lookup_eq_some_iff.1 isMethod
      rw [methodsEq]
      exact List.mem_append_right _ List.mem_cons_self
    simp only [ClientEvent.methods, List.mem_cons, Prod.mk.injEq, List.not_mem_nil, or_false]
      at isListed
    rcases isListed with ⟨_, rfl⟩ | ⟨_, rfl⟩ | ⟨_, rfl⟩ | ⟨_, rfl⟩ | ⟨_, rfl⟩ | ⟨_, rfl⟩ | ⟨_, rfl⟩
    · obtain ⟨_, _, opened⟩ := Option.bind_eq_some_iff.1 isRead
      obtain ⟨_, documentRead, eventEq⟩ := Option.bind_eq_some_iff.1 opened
      obtain ⟨_, _, isDocument⟩ := Option.bind_eq_some_iff.1 documentRead
      cases eventEq
      exact ClientEvent.isValid_of_document? isDocument
    all_goals simp [Option.bind_eq_some_iff] at isRead
  · simp at told

/-- A file in the directory that the project stands for is opened. -/
def Moment.OpensFileIn (moment : Moment) (project : String) : Prop :=
  ∃ name : String, moment.Opens (project ++ name) ∧ '/' ∉ name.toList ∧
    FilePath.isIdle name = false

/-- No file is told to be gone. -/
def Moment.DeletesNothing (moment : Moment) : Prop :=
  ∀ changes, moment.told? = some (.filesChanged changes) →
    ∀ change ∈ changes, change.isDeleted = false

namespace Session

variable {session : Session} {uri : Uri}

/-! ## Entries that stay -/

theorem indexed_openingIndex (indexed : session.workspace.index.Indexed uri) (files : FileTree)
    (document : Document) : (session.openingIndex files document).Indexed uri := by
  rw [openingIndex]
  refine ProjectIndex.indexed_insert.2 (.inr ?_)
  split
  · exact indexed
  · exact ProjectIndex.indexed_update.2 (.inr indexed)

theorem indexed_closingIndex (indexed : session.workspace.index.Indexed uri) {files : FileTree}
    (isReadable : (readScene? files uri).isSome = true) (closed : Uri) :
    (session.closingIndex files closed).Indexed uri := by
  unfold closingIndex
  split
  · exact ProjectIndex.indexed_insert.2 (.inr indexed)
  · rename_i unreadable
    apply indexed.purge_of_ne
    rintro rfl
    simp [unreadable] at isReadable

theorem indexed_foldl {Item : Type} {act : Session → Item → Session} {items : List Item}
    (step : ∀ item ∈ items, ∀ session : Session, session.workspace.index.Indexed uri →
      (act session item).workspace.index.Indexed uri)
    (indexed : session.workspace.index.Indexed uri) :
    (items.foldl act session).workspace.index.Indexed uri := by
  induction items generalizing session with
  | nil => exact indexed
  | cons item rest ih =>
      obtain ⟨first, others⟩ := List.forall_mem_cons.1 step
      exact ih others (first session indexed)

theorem indexed_followEach (indexed : session.workspace.index.Indexed uri) (files : FileTree)
    {changes : List FileChange} (noneDeleted : ∀ change ∈ changes, change.isDeleted = false) :
    (changes.foldl (·.followFile files ·) session).workspace.index.Indexed uri := by
  refine indexed_foldl ?_ indexed
  intro change isChange session indexed
  simp only [followFile, noneDeleted change isChange, Bool.false_eq_true, if_false]
  exact ProjectIndex.indexed_update.2 (.inr indexed)

theorem indexed_runTask (indexed : session.workspace.index.Indexed uri) (files : FileTree)
    (task : DelayedTask) : (session.runTask files task).workspace.index.Indexed uri := by
  rcases session.runTask_cases files task with
    ⟨_, resultEq⟩ | ⟨_, _, resultEq⟩ | ⟨document, _, _, resultEq⟩
  · rwa [resultEq, (session.validate_works files task.uri).index (by simp)]
  · rwa [resultEq]
  · rw [resultEq, (revalidateProject_works _ files task.uri).index (by simp)]
    exact ProjectIndex.indexed_insert.2 (.inr indexed)

/-- What is indexed and can be read from disk stays indexed, unless a deletion is told. -/
theorem indexed_pass (indexed : session.workspace.index.Indexed uri) {moment : Moment}
    (isReadable : (readScene? moment.files uri).isSome = true)
    (noneDeleted : moment.DeletesNothing) :
    (session.pass moment).workspace.index.Indexed uri := by
  have reacts := session.reacts_pass moment
  generalize session.pass moment = after at reacts ⊢
  cases reacts with
  | opened document =>
      rw [(validate_works _ moment.files document.uri).index (by simp)]
      exact indexed_openingIndex indexed moment.files document
  | changed version changes isOpen => exact indexed
  | closed closed =>
      rw [(revalidateProject_works _ moment.files closed).index (by simp)]
      exact indexed_closingIndex indexed isReadable closed
  | due =>
      refine indexed_foldl ?_ indexed
      exact fun task _ session indexed => indexed_runTask indexed moment.files task
  | rested rests => rwa [rests.index]
  | refreshed refreshes => rwa [refreshes.index_eq]
  | followed changes told refreshes =>
      rw [refreshes.index_eq]
      exact indexed_followEach indexed moment.files fun change isConcerned =>
        noneDeleted changes told change (List.mem_filter.1 isConcerned).1

/-! ## Entries that come -/

theorem indexed_of_open (workspace : Workspace) (history : List Moment) :
    let session := (start workspace).passAll history
    ∀ uri, session.documents.contains uri = true → session.workspace.index.Indexed uri := by
  induction history using List.reverseRecOn with
  | nil =>
      intro session uri isOpen
      simp [session, passAll, start, OpenDocuments.contains] at isOpen
  | append_singleton history moment ih =>
      intro session uri isOpen
      have inOrder := inOrder_passAll (inOrder_start workspace) history
      have sessionEq : session = ((start workspace).passAll history).pass moment :=
        passAll_concat _ history moment
      rw [sessionEq] at isOpen ⊢
      by_cases opens : moment.Opens uri
      · obtain ⟨opened, told, rfl⟩ := opens
        exact ⟨opened, rfl, (get?_of_opened _ told).2⟩
      · obtain ⟨document, documentEq⟩ := OpenDocuments.contains_iff.1 isOpen
        have uriEq := (inOrder_pass inOrder moment uri).filed document documentEq
        obtain ⟨previous, previousEq, entry⟩ := keepsEntry_pass inOrder opens document documentEq
        rcases entry with reindexed | ⟨sameEntry, _⟩
        · exact ⟨document, uriEq, reindexed⟩
        · obtain ⟨past, pastUri, pastEq⟩ :=
            ih uri (OpenDocuments.contains_iff.2 ⟨previous, previousEq⟩)
          exact ⟨past, pastUri, sameEntry.trans pastEq⟩

section Directory

variable {directory sibling : String} {files : FileTree}

/-- The first opening of a file in a directory brings in the scene files beside it. -/
theorem indexed_openingIndex_of_new (hasScene : files.HasScene directory sibling)
    (openIndexed : ∀ uri, session.documents.contains uri = true →
      session.workspace.index.Indexed uri)
    {document : Document} {name : String} (uriEq : document.uri = Uri.ofFile directory name)
    (isValid : Uri.isValid document.uri = true) (plain : '/' ∉ name.toList)
    (isNamed : FilePath.isIdle name = false)
    (isNew : session.workspace.index.hasProject
      (Uri.project (Uri.ofFile directory sibling)) = false) :
    (session.openingIndex files document).Indexed (Uri.ofFile directory sibling) := by
  have sameProject : Uri.project document.uri = Uri.project (Uri.ofFile directory sibling) := by
    rw [uriEq, Uri.project_ofFile_eq plain hasScene.plain]
  have notOpen : session.documents.contains (Uri.ofFile directory sibling) = false := by
    rw [← Bool.not_eq_true]
    intro isOpen
    simp [(openIndexed _ isOpen).hasProject] at isNew
  rw [← sameProject] at isNew
  rw [openingIndex, if_neg (Bool.eq_false_iff.1 isNew)]
  refine ProjectIndex.indexed_insert.2 ?_
  by_cases isOwn : document.uri = Uri.ofFile directory sibling
  · exact .inl isOwn
  · obtain ⟨text, isRead⟩ := hasScene.readScene?_eq
    refine .inr (ProjectIndex.indexed_update.2 (.inl ⟨_, List.mem_filterMap.2
      ⟨_, List.mem_filter.2 ⟨?_, ?_⟩, isRead⟩, rfl⟩))
    · rw [uriEq] at isValid ⊢
      exact hasScene.mem_sceneFilesBeside isValid plain isNamed
    · simp [notOpen, Ne.symm isOwn]

/-- Whenever a project comes into the index, a file in its directory is opened. -/
def EntersByOpening (start : Session) (history : List Moment) (project : String) : Prop :=
  ∀ earlier moment later, history = earlier ++ moment :: later →
    (start.passAll earlier).workspace.index.hasProject project = false →
    ((start.passAll earlier).pass moment).workspace.index.hasProject project = true →
    moment.OpensFileIn project

theorem EntersByOpening.of_concat {start : Session} {history : List Moment} {moment : Moment}
    {project : String} (entered : EntersByOpening start (history ++ [moment]) project) :
    EntersByOpening start history project := by
  rintro earlier moment later rfl
  exact entered earlier moment _ (List.append_assoc _ _ _)

/-- A project that has come into the index has all scene files of its directory there. -/
theorem indexed_of_hasProject (hasScene : files.HasScene directory sibling)
    (workspace : Workspace)
    (isNew : workspace.index.hasProject (Uri.project (Uri.ofFile directory sibling)) = false)
    {history : List Moment} (sameFiles : ∀ moment ∈ history, moment.files = files)
    (noneDeleted : ∀ moment ∈ history, moment.DeletesNothing)
    (entered : EntersByOpening (start workspace) history
      (Uri.project (Uri.ofFile directory sibling)))
    (hasProject : ((start workspace).passAll history).workspace.index.hasProject
      (Uri.project (Uri.ofFile directory sibling)) = true) :
    ((start workspace).passAll history).workspace.index.Indexed
      (Uri.ofFile directory sibling) := by
  induction history using List.reverseRecOn with
  | nil => exact absurd (isNew.symm.trans hasProject) (by simp)
  | append_singleton history moment ih =>
      obtain ⟨sameBefore, sameNow⟩ := List.forall_mem_append.1 sameFiles
      obtain ⟨noneBefore, noneNow⟩ := List.forall_mem_append.1 noneDeleted
      have filesEq := List.forall_mem_singleton.1 sameNow
      rw [passAll_concat] at hasProject ⊢
      cases had : ((start workspace).passAll history).workspace.index.hasProject
          (Uri.project (Uri.ofFile directory sibling)) with
      | true =>
          -- it was in the index before, so the file was there and stays
          have indexed := ih sameBefore noneBefore entered.of_concat had
          obtain ⟨text, isRead⟩ := hasScene.readScene?_eq
          refine indexed_pass indexed ?_ (List.forall_mem_singleton.1 noneNow)
          rw [filesEq, isRead]
          rfl
      | false =>
          obtain ⟨name, opens, plain, isNamed⟩ := entered history moment [] rfl had hasProject
          rw [Uri.project_ofFile_append hasScene.plain] at opens
          have isValid := opens.isValid
          obtain ⟨document, told, uriEq⟩ := opens
          rw [pass_of_told _ told, notify, filesEq, openDocument_eq,
            (validate_works _ files document.uri).index (by simp)]
          exact indexed_openingIndex_of_new hasScene (indexed_of_open workspace history) uriEq
            (uriEq ▸ isValid) plain isNamed had

end Directory

/-- While the disk stays as it is and no deletion is told, the index has every scene file
in the directory of an open document whose name has plain characters only, and no jump
from the document to the scene is reported.  This is so for every project that comes into
the index when a file in its directory is opened. -/
theorem sibling_scenes_indexed (settings : Settings) (configDirectory : Option String)
    (history : List Moment) {files : FileTree}
    (sameFiles : ∀ moment ∈ history, moment.files = files)
    (noneDeleted : ∀ moment ∈ history, moment.DeletesNothing)
    {directory name : String} (plain : '/' ∉ name.toList)
    (entered : EntersByOpening (Connection.sessionOf settings configDirectory) history
      (Uri.project (Uri.ofFile directory name)))
    {document : Document}
    (isOpen : ((Connection.sessionOf settings configDirectory).passAll history).documents.get?
      (Uri.ofFile directory name) = some document)
    {sibling : String} (hasScene : files.HasScene directory sibling) :
    let session := (Connection.sessionOf settings configDirectory).passAll history
    let uri := Uri.ofFile directory sibling
    ((session.workspace.index.snapshot (Uri.project document.uri)).document? uri).isSome = true ∧
      ∀ disk, ∀ occurrence ∈ document.scene.occurrences,
        occurrence.role = .sceneReference false → occurrence.name = uri.sceneName →
          ¬ Reported ((session.workspace.withSpelling disk).reports document) .unresolvedScene
            occurrence.span := by
  intro session uri
  have uriEq : document.uri = Uri.ofFile directory name :=
    (inOrder_passAll (inOrder_start _) history _).filed document isOpen
  rw [← uriEq] at isOpen entered
  have sameProject : Uri.project uri = Uri.project document.uri := by
    rw [uriEq, Uri.project_ofFile_eq hasScene.plain plain]
  have hasProject : session.workspace.index.hasProject (Uri.project uri) = true := by
    rw [sameProject]
    exact (indexed_of_open _ history _
      (OpenDocuments.contains_iff.2 ⟨document, isOpen⟩)).hasProject
  have indexed : session.workspace.index.Indexed uri :=
    indexed_of_hasProject hasScene _ (ProjectIndex.hasProject_eq_false_iff.2 fun _ _ => rfl)
      sameFiles noneDeleted (sameProject ▸ entered) hasProject
  refine ⟨?_, ?_⟩
  · rw [← sameProject]
    exact indexed.document?_snapshot
  · intro disk occurrence isOccurrence isJump nameEq
    rw [Workspace.reported_reports_iff rfl]
    apply not_reported_of_hasScene isOccurrence isJump
    rw [nameEq, Workspace.around, Workspace.index_withSpelling]
    exact indexed.hasScene sameProject

/-- A document is opened that jumps to a file beside it, and a change of another file is
told: the file is in the index, and the jump is not reported. -/
theorem sibling_scenes_indexed_after_change :
    let files : FileTree :=
      { entries := [(["game"], .directory), (["game", "chapter.txt"], .text "*goto_scene ending"),
          (["game", "ending.txt"], .text "The end."), (["game", "startup.txt"], .text "Hello.")] }
    let opening : Moment := ⟨files, 0, .message (.notification "textDocument/didOpen" (.object
      [("textDocument", .object
        [("uri", .string "file:///game/chapter.txt"), ("languageId", .string languageId),
          ("version", .int 1), ("text", .string "*goto_scene ending")])]))⟩
    let touching : Moment := ⟨files, 10, .message (.notification "workspace/didChangeWatchedFiles"
      (.object [("changes", .array
        [.object [("uri", .string "file:///game/startup.txt"), ("type", .int 2)]])]))⟩
    let history := [opening, touching]
    let session := (Connection.sessionOf {} none).passAll history
    let occurrence : Occurrence := ⟨.sceneReference false, "ending", ⟨12, 18⟩, 0⟩
    ((∀ moment ∈ history, moment.files = files ∧ moment.DeletesNothing) ∧
      EntersByOpening (Connection.sessionOf {} none) history "file:///game/" ∧
      files.HasScene "/game" "ending.txt") ∧
    ∃ document, session.documents.get? "file:///game/chapter.txt" = some document ∧
      occurrence ∈ document.scene.occurrences ∧
      ((session.workspace.index.snapshot (Uri.project document.uri)).document?
        "file:///game/ending.txt").isSome = true ∧
      ¬ Reported ((session.workspace.withSpelling files).reports document) .unresolvedScene
        occurrence.span := by
  intro files opening touching history session occurrence
  let chapter := Document.ofText "file:///game/chapter.txt" 1 "*goto_scene ending"
  have openingTold : opening.told? = some (.opened chapter) := rfl
  have touchingTold : touching.told? =
      some (.filesChanged [⟨"file:///game/startup.txt", false⟩]) := rfl
  have sameFiles : ∀ moment ∈ history, moment.files = files := by
    simp [history, opening, touching]
  have noneDeleted : ∀ moment ∈ history, moment.DeletesNothing := by
    simp [history, Moment.DeletesNothing, openingTold, touchingTold]
  have entered : EntersByOpening (Connection.sessionOf {} none) history "file:///game/" := by
    intro earlier moment later historyEq had has
    match earlier, historyEq with
    | [], historyEq =>
        obtain ⟨rfl, _⟩ := List.cons.inj historyEq
        exact ⟨"chapter.txt", ⟨chapter, openingTold, by decide⟩, by decide, by decide⟩
    | [first], historyEq =>
        obtain ⟨rfl, _⟩ := List.cons.inj historyEq
        exact absurd had (by decide +kernel)
    | first :: second :: rest, historyEq => simp [history] at historyEq
  have isOpen : session.documents.get? "file:///game/chapter.txt" = some chapter := by
    have sessionEq : session = ((Connection.sessionOf {} none).pass opening).pass touching := rfl
    have followed := ((Connection.sessionOf {} none).pass opening).followFiles_cases files
      [⟨"file:///game/startup.txt", false⟩]
    rw [sessionEq, pass_of_told _ touchingTold, notify,
      followed.elim (·.documents) (·.works.documents)]
    exact (get?_of_opened _ openingTold).1
  have isOccurrence : occurrence ∈ chapter.scene.occurrences := by decide +kernel
  have hasScene : files.HasScene "/game" "ending.txt" :=
    ⟨by decide, List.all_eq_true.1 (by decide), "The end.", rfl⟩
  obtain ⟨indexed, notReported⟩ := @sibling_scenes_indexed {} none history files sameFiles
    noneDeleted "/game" "chapter.txt" (by decide) entered chapter isOpen "ending.txt" hasScene
  exact ⟨⟨fun moment isIn => ⟨sameFiles moment isIn, noneDeleted moment isIn⟩, entered, hasScene⟩,
    chapter, isOpen, isOccurrence, indexed,
    notReported files occurrence isOccurrence rfl (by decide)⟩

/-- The change of a file is told before the document is opened: the file beside it to
which it jumps is not in the index, and the jump is reported. -/
theorem sibling_missing_after_early_change :
    let files : FileTree :=
      { entries := [(["game"], .directory), (["game", "chapter.txt"], .text "*goto_scene ending"),
          (["game", "ending.txt"], .text "The end."), (["game", "startup.txt"], .text "Hello.")] }
    let touching : Moment := ⟨files, 0, .message (.notification "workspace/didChangeWatchedFiles"
      (.object [("changes", .array
        [.object [("uri", .string "file:///game/startup.txt"), ("type", .int 2)]])]))⟩
    let opening : Moment := ⟨files, 10, .message (.notification "textDocument/didOpen" (.object
      [("textDocument", .object
        [("uri", .string "file:///game/chapter.txt"), ("languageId", .string languageId),
          ("version", .int 1), ("text", .string "*goto_scene ending")])]))⟩
    let history := [touching, opening]
    let session := (Connection.sessionOf {} none).passAll history
    let occurrence : Occurrence := ⟨.sceneReference false, "ending", ⟨12, 18⟩, 0⟩
    ((∀ moment ∈ history, moment.files = files ∧ moment.DeletesNothing) ∧
      files.HasScene "/game" "ending.txt") ∧
    ∃ document, session.documents.get? "file:///game/chapter.txt" = some document ∧
      occurrence ∈ document.scene.occurrences ∧
      session.workspace.index.get? "file:///game/ending.txt" = none ∧
      Reported ((session.workspace.withSpelling files).reports document) .unresolvedScene
        occurrence.span := by
  intro files touching opening history session occurrence
  let chapter := Document.ofText "file:///game/chapter.txt" 1 "*goto_scene ending"
  have touchingTold : touching.told? =
      some (.filesChanged [⟨"file:///game/startup.txt", false⟩]) := rfl
  have openingTold : opening.told? = some (.opened chapter) := rfl
  have sameFiles : ∀ moment ∈ history, moment.files = files := by
    simp [history, opening, touching]
  have noneDeleted : ∀ moment ∈ history, moment.DeletesNothing := by
    simp [history, Moment.DeletesNothing, openingTold, touchingTold]
  have isOpen : session.documents.get? "file:///game/chapter.txt" = some chapter := by
    have sessionEq : session = ((Connection.sessionOf {} none).pass touching).pass opening := rfl
    rw [sessionEq]
    exact (get?_of_opened _ openingTold).1
  have isOccurrence : occurrence ∈ chapter.scene.occurrences := by decide +kernel
  have hasScene : files.HasScene "/game" "ending.txt" :=
    ⟨by decide, List.all_eq_true.1 (by decide), "The end.", rfl⟩
  refine ⟨⟨fun moment isIn => ⟨sameFiles moment isIn, noneDeleted moment isIn⟩, hasScene⟩, chapter,
    isOpen, isOccurrence, Option.isNone_iff_eq_none.1 (by decide +kernel), ?_⟩
  have allOn : ∀ rule, (session.workspace.settings.diagnostics.validation.severityFor
      rule).isSome = true := by decide +kernel
  rw [Workspace.reported_reports_iff rfl, Workspace.settings_withSpelling, Workspace.around,
    Workspace.index_withSpelling, reported_reference_iff allOn isOccurrence rfl]
  decide +kernel

end Session

end Gamebook
