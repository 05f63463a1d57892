import Mathlib.Data.List.Induction
import Gamebook.Proofs.DiagnosticsUpkeep
import Gamebook.Proofs.DocumentLife

/-!
# Diagnostics settle

When nothing waits any more, the diagnostics shown for an open document are the ones a
validation would find now, with one exception: the opening of another document of the
project may change what a validation finds, and nobody is told.  The exception lasts
until something is published for the document again.
-/

namespace Gamebook

namespace Session

/-- What happens around a session: an event, other settings in the store, or the oldest
change of settings that is acted on. -/
inductive Occasion where
  | event (moment : Moment)
  | replaced (settings : Settings)
  | delivered (files : FileTree) (now : Nat)

def undergo (session : Session) : Occasion → Session
  | .event moment => session.pass moment
  | .replaced settings => session.updateSettings (·.replace settings)
  | .delivered files now =>
      match session.changes with
      | [] => session
      | change :: rest =>
          { session with changes := rest }.pass ⟨files, now, .settingsChanged change⟩

def undergoAll (session : Session) (history : List Occasion) : Session :=
  history.foldl undergo session

theorem undergoAll_concat (session : Session) (history : List Occasion) (occasion : Occasion) :
    session.undergoAll (history ++ [occasion]) = (session.undergoAll history).undergo occasion := by
  rw [undergoAll, List.foldl_append, undergoAll]
  rfl

variable {session before after : Session} {document : Document}

/-! ## One event -/

/-- A document is attended to in the end, unless it was as it is and not attended to before
and nothing has been published for it. -/
def Attended (document : Document) (before after : Session) : Prop :=
  after.Attends document ∨
    after.publicationsFor document.uri = before.publicationsFor document.uri ∧
      before.documents.get? document.uri = some document ∧ ¬ before.Attends document

theorem Minds.attended (minds : Minds document before after)
    (wasOpen : before.documents.get? document.uri = some document) :
    Attended document before after :=
  minds.imp_right fun ⟨published, neglected⟩ => ⟨published, wasOpen, neglected⟩

theorem InOrder.serves (inOrder : InOrder [] session document.uri)
    (isOpen : session.documents.get? document.uri = some document) :
    session.Serves document where
  isOpen := isOpen
  isLive := by
    rcases inOrder.open_state (OpenDocuments.contains_iff.2 ⟨document, isOpen⟩) with
      stateEq | stateEq <;> exact Lifecycle.isLive_iff.2 ⟨_, stateEq, by simp⟩

theorem attended_opened {opened : Document} {files : FileTree} (plain : files.HasPlainNames)
    (notSibling : Uri.project opened.uri = Uri.project document.uri → opened.uri = document.uri)
    (isOpen : ((session.withOpened files opened).validate files opened.uri).documents.get?
      document.uri = some document) :
    Attended document session ((session.withOpened files opened).validate files opened.uri) := by
  rw [(validate_works _ files opened.uri).documents, withOpened,
    OpenDocuments.get?_insert] at isOpen
  by_cases isOwn : document.uri = opened.uri
  · rw [if_pos isOwn] at isOpen
    obtain rfl := Option.some.inj isOpen
    exact .inl (.inl (session.fresh_opened files opened))
  · rw [if_neg isOwn] at isOpen
    have foreign : Uri.project document.uri ≠ Uri.project opened.uri :=
      fun sameProject => isOwn (notSibling sameProject.symm).symm
    exact (minds_opened plain foreign).attended isOpen

theorem attended_withChanged {now : Nat} {previous : Document} {version : Int}
    {changes : List TextChange}
    (isOpen : (session.withChanged now previous.uri
      (OpenDocuments.changed previous version changes)).documents.get? document.uri =
        some document) :
    Attended document session
      (session.withChanged now previous.uri (OpenDocuments.changed previous version changes)) := by
  by_cases isOwn : document.uri = previous.uri
  · left
    right
    rw [isOwn]
    exact session.waits_withChanged now previous.uri _
  · rw [withChanged, OpenDocuments.get?_insert] at isOpen
    have wasOpen : session.documents.get? document.uri = some document :=
      (if_neg isOwn).symm.trans isOpen
    exact (session.minds_withChanged document now previous.uri _).attended wasOpen

theorem attended_closed (inOrder : ∀ uri, InOrder [] session uri) {files : FileTree}
    {closed : Uri}
    (isOpen : ((session.withClosed files closed).revalidateProject files closed).documents.get?
      document.uri = some document) :
    Attended document session
      ((session.withClosed files closed).revalidateProject files closed) := by
  rw [(revalidateProject_works _ files closed).documents, withClosed, send,
    OpenDocuments.get?_erase] at isOpen
  by_cases isOwn : document.uri = closed
  · simp [isOwn] at isOpen
  · rw [if_neg isOwn] at isOpen
    have serves := (inOrder document.uri).serves isOpen
    exact (minds_closed serves files isOwn).attended isOpen

theorem Refreshes.attended {index : ProjectIndex} (refreshes : Refreshes index session after)
    (inOrder : ∀ uri, InOrder [] session uri)
    (isOpen : after.documents.get? document.uri = some document) :
    Attended document session after := by
  rw [refreshes.works.documents] at isOpen
  exact .inl (.inl (refreshes.fresh ((inOrder document.uri).serves isOpen)))

theorem attended_pass (inOrder : ∀ uri, InOrder [] session uri) (listens : session.Listens)
    {moment : Moment} (plain : moment.files.HasPlainNames)
    (notSibling : ∀ other, moment.Opens other →
      Uri.project other = Uri.project document.uri → other = document.uri)
    (isOpen : (session.pass moment).documents.get? document.uri = some document) :
    Attended document session (session.pass moment) := by
  have reacts := session.reacts_pass moment
  generalize session.pass moment = after at reacts isOpen ⊢
  cases reacts with
  | opened opened told =>
      exact attended_opened plain (notSibling opened.uri ⟨opened, told, rfl⟩) isOpen
  | @changed changed previous version changes wasOpen =>
      obtain rfl := (inOrder changed).filed previous wasOpen
      exact attended_withChanged isOpen
  | closed closed => exact attended_closed inOrder isOpen
  | due =>
      have wasOpen : session.documents.get? document.uri = some document :=
        (runTasks_works (session.withTaken moment.now) moment.files _).documents ▸ isOpen
      have serves := (inOrder document.uri).serves wasOpen
      exact (minds_due serves inOrder moment.files moment.now).attended wasOpen
  | rested rests => exact (rests.minds listens document).attended (rests.documents ▸ isOpen)
  | refreshed refreshes => exact refreshes.attended inOrder isOpen
  | followed _ _ refreshes => exact refreshes.attended inOrder isOpen

/-! ## The session goes on listening -/

theorem listens_start (workspace : Workspace) : (start workspace).Listens := by
  simp [Listens, start, SettingsStore.subscribe]

theorem listens_pass (listens : session.Listens) (moment : Moment) :
    (session.pass moment).Listens := by
  have reacts := session.reacts_pass moment
  generalize session.pass moment = after at reacts ⊢
  cases reacts with
  | opened document => exact (validate_works _ moment.files document.uri).listens listens
  | changed => exact listens
  | closed closed => exact (revalidateProject_works _ moment.files closed).listens listens
  | due => exact (runTasks_works _ moment.files _).listens listens
  | rested rests => exact rests.listens listens
  | refreshed refreshes => exact refreshes.works.listens listens
  | followed _ _ refreshes => exact refreshes.works.listens listens

/-! ## Every history -/

/-- What holds of a session whatever has happened: its tables agree on every document, and
it is told of changes of settings. -/
structure Sound (session : Session) : Prop where
  inOrder : ∀ uri, InOrder [] session uri
  listens : session.Listens

theorem sound_undergo (sound : session.Sound) (occasion : Occasion) :
    (session.undergo occasion).Sound := by
  cases occasion with
  | event moment => exact ⟨inOrder_pass sound.inOrder moment, listens_pass sound.listens moment⟩
  | replaced settings =>
      have updated : Apart session (session.updateSettings (·.replace settings)) :=
        ⟨rfl, id, rfl, rfl, rfl⟩
      exact ⟨fun uri => (sound.inOrder uri).works updated.works, sound.listens⟩
  | delivered files now =>
      rw [undergo]
      split
      · exact sound
      · rename_i change rest _
        have taken : Apart session { session with changes := rest } := ⟨rfl, id, rfl, rfl, rfl⟩
        have inOrder := fun uri => (sound.inOrder uri).works taken.works
        have listens : Listens { session with changes := rest } := sound.listens
        exact ⟨inOrder_pass inOrder _, listens_pass listens _⟩

theorem sound_undergoAll (workspace : Workspace) (history : List Occasion) :
    ((start workspace).undergoAll history).Sound := by
  have sound (session : Session) (sound : session.Sound) : (session.undergoAll history).Sound := by
    induction history generalizing session with
    | nil => exact sound
    | cons occasion rest ih => exact ih _ (sound_undergo sound occasion)
  exact sound _ ⟨inOrder_start workspace, listens_start workspace⟩

/-- An occasion opens another document of the project of a document. -/
def Occasion.OpensBeside (uri : Uri) : Occasion → Prop
  | .event moment => ∃ other, moment.Opens other ∧ other ≠ uri ∧
      Uri.project other = Uri.project uri
  | _ => False

/-- The disk that an event sees has no names with slashes. -/
def Occasion.HasPlainNames : Occasion → Prop
  | .event moment => moment.files.HasPlainNames
  | _ => True

theorem attended_undergo (sound : session.Sound) {occasion : Occasion}
    (plain : occasion.HasPlainNames) (notBeside : ¬ occasion.OpensBeside document.uri)
    (isOpen : (session.undergo occasion).documents.get? document.uri = some document) :
    Attended document session (session.undergo occasion) := by
  cases occasion with
  | event moment =>
      refine attended_pass sound.inOrder sound.listens plain ?_ isOpen
      intro other opens sameProject
      by_cases isOwn : other = document.uri
      · exact isOwn
      · exact absurd ⟨other, opens, isOwn, sameProject⟩ notBeside
  | replaced settings => exact (minds_replace sound.listens settings).attended isOpen
  | delivered files now =>
      rw [undergo] at isOpen ⊢
      split at isOpen
      · exact (Minds.refl document session).attended isOpen
      · rename_i change rest _
        have taken : Apart session { session with changes := rest } := ⟨rfl, id, rfl, rfl, rfl⟩
        have refreshes : Refreshes session.workspace.index session
            ({ session with changes := rest }.revalidateAll files) := .validated taken rfl files
        exact refreshes.attended sound.inOrder isOpen

/-- Another document of the project has been opened, and nothing has been published for
the document since. -/
def Overtaken (start : Session) (history : List Occasion) (uri : Uri) : Prop :=
  ∃ earlier opening later, history = earlier ++ opening :: later ∧ opening.OpensBeside uri ∧
    (start.undergoAll history).publicationsFor uri =
      (start.undergoAll (earlier ++ [opening])).publicationsFor uri

theorem attends_or_overtaken (workspace : Workspace) (history : List Occasion)
    (plain : ∀ occasion ∈ history, occasion.HasPlainNames)
    (isOpen : ((start workspace).undergoAll history).documents.get? document.uri =
      some document) :
    ((start workspace).undergoAll history).Attends document ∨
      Overtaken (start workspace) history document.uri := by
  induction history using List.reverseRecOn generalizing document with
  | nil => simp [undergoAll, start, OpenDocuments.get?] at isOpen
  | append_singleton history occasion ih =>
      have sound := sound_undergoAll workspace history
      rw [undergoAll_concat] at isOpen ⊢
      by_cases beside : occasion.OpensBeside document.uri
      · exact .inr ⟨history, occasion, [], rfl, beside, rfl⟩
      · have plainNow := plain occasion (by simp)
        rcases attended_undergo sound plainNow beside isOpen with
          attends | ⟨published, wasOpen, neglected⟩
        · exact .inl attends
        · -- nothing was published, so what was overtaken is so still
          have plainBefore other (isEarlier : other ∈ history) :=
            plain other (List.mem_append_left _ isEarlier)
          obtain ⟨earlier, opening, later, rfl, opens, unpublished⟩ :=
            (ih plainBefore wasOpen).resolve_left neglected
          refine .inr ⟨earlier, opening, later ++ [occasion], by simp, opens, ?_⟩
          rw [undergoAll_concat, published, unpublished]

theorem not_waits {uri : Uri} (noTasks : session.schedule.isEmpty = true)
    (noChanges : session.changes = []) : ¬ session.Waits uri := by
  have nothingPending (task : DelayedTask) : ¬ session.schedule.isPending task = true := by
    simp [Schedule.isPending, List.isEmpty_iff.1 noTasks]
  rintro (undelivered | isPending | ⟨other, _, _, isPending⟩)
  · exact undelivered noChanges
  · exact nothingPending _ isPending
  · exact nothingPending _ isPending

/-- When no task is pending and no change of settings waits, the last diagnostics
published for an open document are the ones a validation finds now, whatever the disk
holds, unless another document of its project has been opened since. -/
theorem diagnostics_settle (workspace : Workspace) (history : List Occasion)
    (plain : ∀ occasion ∈ history, occasion.HasPlainNames)
    (noTasks : ((start workspace).undergoAll history).schedule.isEmpty = true)
    (noChanges : ((start workspace).undergoAll history).changes = []) {uri : Uri}
    {document : Document}
    (isOpen : ((start workspace).undergoAll history).documents.get? uri = some document)
    (notOvertaken : ¬ Overtaken (start workspace) history uri) :
    ∃ publication,
      (((start workspace).undergoAll history).publicationsFor uri).getLast? = some publication ∧
        ∀ files, publication.diagnostics =
          (((start workspace).undergoAll history).diagnose files document).2 := by
  obtain rfl := ((sound_undergoAll workspace history).inOrder uri).filed document isOpen
  have attends := (attends_or_overtaken workspace history plain isOpen).resolve_right notOvertaken
  exact (attends.resolve_right (not_waits noTasks noChanges)).eq_diagnose

/-- A document is opened beside one that refers to it, and then other settings are put
into the store: once they have been acted on, both documents are up to date. -/
theorem diagnostics_settle_after_delivery :
    let uri := "file:///game/chapter.txt"
    let opening (uri text : String) : Occasion :=
      .event ⟨{}, 0, .message (.notification "textDocument/didOpen" (.object
        [("textDocument", .object
          [("uri", .string uri), ("languageId", .string languageId), ("version", .int 1),
            ("text", .string text)])]))⟩
    let history := [opening uri "*goto_scene ending", opening "file:///game/ending.txt" "",
      .replaced { diagnostics := { spelling := { enabled := false } } }, .delivered {} 10]
    let session := (start {}).undergoAll history
    (∀ occasion ∈ history, occasion.HasPlainNames) ∧
    (session.schedule.isEmpty = true ∧ session.changes = []) ∧
    ¬ Overtaken (start {}) history uri ∧
    ∃ document publication, session.documents.get? uri = some document ∧
      (session.publicationsFor uri).getLast? = some publication ∧
      ∀ files, publication.diagnostics = (session.diagnose files document).2 := by
  intro uri opening history session
  have plain : ∀ occasion ∈ history, occasion.HasPlainNames := by
    have emptyDisk : FileTree.HasPlainNames {} := by simp [FileTree.HasPlainNames]
    simp only [history, List.forall_mem_cons, List.not_mem_nil, false_implies, implies_true]
    exact ⟨emptyDisk, emptyDisk, trivial, trivial, trivial⟩
  have notOvertaken : ¬ Overtaken (start {}) history uri := by
    rintro ⟨earlier, opened, later, historyEq, beside, published⟩
    have counts := congrArg List.length published
    match earlier, historyEq with
    | [], historyEq =>
        obtain ⟨rfl, _⟩ := List.cons.inj historyEq
        exact absurd counts (by decide +kernel)
    | [first], historyEq =>
        obtain ⟨rfl, secondEq⟩ := List.cons.inj historyEq
        obtain ⟨rfl, _⟩ := List.cons.inj secondEq
        exact absurd counts (by decide +kernel)
    | [first, second], historyEq =>
        obtain ⟨_, secondEq⟩ := List.cons.inj historyEq
        obtain ⟨_, thirdEq⟩ := List.cons.inj secondEq
        obtain ⟨rfl, _⟩ := List.cons.inj thirdEq
        exact beside
    | [first, second, third], historyEq =>
        obtain ⟨_, secondEq⟩ := List.cons.inj historyEq
        obtain ⟨_, thirdEq⟩ := List.cons.inj secondEq
        obtain ⟨_, fourthEq⟩ := List.cons.inj thirdEq
        obtain ⟨rfl, _⟩ := List.cons.inj fourthEq
        exact beside
    | first :: second :: third :: fourth :: rest, historyEq => simp [history] at historyEq
  have isOpen : session.documents.contains uri = true := by decide +kernel
  obtain ⟨document, documentEq⟩ := OpenDocuments.contains_iff.1 isOpen
  have noTasks : session.schedule.isEmpty = true := by decide +kernel
  have noChanges : session.changes = [] := by decide +kernel
  obtain ⟨publication, lastEq, diagnosticsEq⟩ :=
    diagnostics_settle {} history plain noTasks noChanges documentEq notOvertaken
  exact ⟨plain, ⟨noTasks, noChanges⟩, notOvertaken, document, publication, documentEq, lastEq,
    diagnosticsEq⟩

/-- A document is opened beside one that refers to it: nothing waits, and the reference is
still shown as unresolved, though a validation would find nothing. -/
theorem diagnostics_stale_after_opening :
    let uri := "file:///game/chapter.txt"
    let opening (uri text : String) : Occasion :=
      .event ⟨{}, 0, .message (.notification "textDocument/didOpen" (.object
        [("textDocument", .object
          [("uri", .string uri), ("languageId", .string languageId), ("version", .int 1),
            ("text", .string text)])]))⟩
    let session := (start {}).undergoAll
      [opening uri "*goto_scene ending", opening "file:///game/ending.txt" ""]
    (session.schedule.isEmpty = true ∧ session.changes = []) ∧
    ∃ document publication, session.documents.get? uri = some document ∧
      (session.publicationsFor uri).getLast? = some publication ∧
      publication.diagnostics.length = 1 ∧ (session.diagnose {} document).2 = [] := by
  intro uri opening session
  let chapter := Document.ofText uri 1 "*goto_scene ending"
  let ending := Document.ofText "file:///game/ending.txt" 1 ""
  let opened := ((start {}).withOpened {} chapter).validate {} chapter.uri
  have sessionEq : session = (opened.withOpened {} ending).validate {} ending.uri := by
    have asOpenings : session = ((start {}).openDocument {} chapter).openDocument {} ending := by
      unfold session opening chapter ending uri
      rfl
    rw [asOpenings, openDocument_eq, openDocument_eq]
  obtain ⟨publication, lastEq, shownEq⟩ := ((start {}).fresh_opened {} chapter).published
  have different : uri ≠ ending.uri := by decide
  have isLoaded : session.workspace.IsLoaded := by
    rw [sessionEq]
    exact (opened.fresh_opened {} ending).isLoaded
  have isLast : (session.publicationsFor uri).getLast? = some publication := by
    rw [sessionEq, publicationsFor_validate_of_ne different, publicationsFor_withOpened]
    exact lastEq
  have isOpen : session.documents.get? uri = some chapter := by
    rw [sessionEq, (validate_works _ {} ending.uri).documents, withOpened,
      OpenDocuments.get?_insert, if_neg different, (validate_works _ {} chapter.uri).documents,
      withOpened, OpenDocuments.get?_insert]
    exact if_pos rfl
  refine ⟨by decide +kernel, chapter, publication, isOpen, isLast, ?_, ?_⟩
  · rw [shownEq, Workspace.length_shown (by decide +kernel)]
    decide +kernel
  · rw [diagnose_eq_shown, shown_diagnose isLoaded, ← List.length_eq_zero_iff,
      Workspace.length_shown (by decide +kernel)]
    decide +kernel

end Session

end Gamebook
