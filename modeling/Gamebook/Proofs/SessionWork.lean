import Gamebook.Proofs.SessionTables
import Gamebook.Proofs.ShownDiagnostics

/-!
# Work between two changes of documents

Apart from the opening, changing and closing of documents, and from the taking of
tasks that are due, everything a session does is work of one kind: documents stay
as they are, some of them are validated, and what is published for a document
carries its version.  Here this is said once, as a relation between the session
before and after, together with the parts of the session that are written besides.
-/

namespace Gamebook

namespace Session

/-- The session is told of changes of settings. -/
def Listens (session : Session) : Prop :=
  session.listener ∈ session.workspace.store.listeners

/-- Unless the document is closed, its diagnostics belong to its text. -/
def Settled (session : Session) (uri : Uri) : Prop :=
  session.documents.contains uri = true → session.lifecycle.isLive uri = true →
    session.lifecycle.state? uri = some .validated

theorem Settled.state?_ne_unvalidated {session : Session} {uri : Uri}
    (settled : session.Settled uri) (isOpen : session.documents.contains uri = true) :
    session.lifecycle.state? uri ≠ some .unvalidated := by
  intro unvalidated
  have isLive := Lifecycle.isLive_iff.2 ⟨_, unvalidated, by simp⟩
  simp [settled isOpen isLive] at unvalidated

/-- The parts of a session that some work writes and other work does not. -/
inductive Part where
  | index
  /-- The changes of settings that have not been acted on. -/
  | changes
  | tasks

/-- Work leads from one session to another.  Of the parts it writes the given ones only. -/
structure Works (parts : List Part) (before after : Session) : Prop where
  documents : after.documents = before.documents
  listens : before.Listens → after.Listens
  index : .index ∉ parts → after.workspace.index = before.workspace.index
  changes : .changes ∉ parts → after.changes = before.changes
  schedule : .tasks ∉ parts → after.schedule = before.schedule
  pending : ∀ task, after.schedule.isPending task = true →
    before.schedule.isPending task = true
  /-- Only validations are dropped, because they have been done. -/
  dropped : ∀ task, before.schedule.isPending task = true →
    after.schedule.isPending task = true ∨ task.kind = .validate ∧ after.Settled task.uri
  state : ∀ uri, after.lifecycle.state? uri = before.lifecycle.state? uri ∨
    before.documents.contains uri = true ∧ before.lifecycle.isLive uri = true ∧
      after.lifecycle.state? uri = some .validated
  /-- Publications are about open documents and carry their versions, and no state
  changes without one. -/
  published : ∃ sent, after.publications = before.publications ++ sent ∧
    (∀ publication ∈ sent, ∃ document,
      before.documents.get? publication.uri = some document ∧
        publication.version = some document.version) ∧
    ∀ uri, after.lifecycle.state? uri ≠ before.lifecycle.state? uri →
      ∃ publication ∈ sent, publication.uri = uri

/-- Documents, tasks and diagnostics are left alone. -/
structure Apart (before after : Session) : Prop where
  documents : after.documents = before.documents
  listens : before.Listens → after.Listens
  schedule : after.schedule = before.schedule
  lifecycle : after.lifecycle = before.lifecycle
  publications : after.publications = before.publications

variable {parts : List Part} {before middle after : Session}

namespace Apart

theorem refl (session : Session) : Apart session session :=
  ⟨rfl, id, rfl, rfl, rfl⟩

theorem trans (first : Apart before middle) (second : Apart middle after) :
    Apart before after where
  documents := second.documents.trans first.documents
  listens := fun listens => second.listens (first.listens listens)
  schedule := second.schedule.trans first.schedule
  lifecycle := second.lifecycle.trans first.lifecycle
  publications := second.publications.trans first.publications

theorem ofWorkspace (session : Session) {workspace : Workspace}
    (store : workspace.store = session.workspace.store) :
    Apart session { session with workspace } := by
  refine ⟨rfl, ?_, rfl, rfl, rfl⟩
  intro listens
  rw [Listens, store]
  exact listens

theorem send (session : Session) {message : Outgoing}
    (noPublication : message.publication? = none) : Apart session (session.send message) := by
  refine ⟨rfl, id, rfl, rfl, ?_⟩
  rw [publications_send, noPublication]
  exact List.append_nil _

end Apart

namespace Works

theorem ofApart (apart : Apart before after)
    (index : .index ∉ parts → after.workspace.index = before.workspace.index)
    (changes : .changes ∉ parts → after.changes = before.changes) : Works parts before after where
  documents := apart.documents
  listens := apart.listens
  index := index
  changes := changes
  schedule := fun _ => apart.schedule
  pending := fun _ isPending => apart.schedule ▸ isPending
  dropped := fun _ isPending => .inl (apart.schedule ▸ isPending)
  state := fun _ => .inl (by rw [apart.lifecycle])
  published := by
    refine ⟨[], by rw [apart.publications, List.append_nil], by simp, ?_⟩
    intro uri changed
    exact absurd (by rw [apart.lifecycle]) changed

theorem refl (session : Session) : Works parts session session :=
  .ofApart (.refl session) (fun _ => rfl) (fun _ => rfl)

theorem isLive_before (work : Works parts before after) {uri : Uri}
    (isLive : after.lifecycle.isLive uri = true) : before.lifecycle.isLive uri = true := by
  rcases work.state uri with stateEq | ⟨_, wasLive, _⟩
  · rw [Lifecycle.isLive, ← stateEq]
    exact isLive
  · exact wasLive

theorem settled (work : Works parts before after) {uri : Uri} (settled : before.Settled uri) :
    after.Settled uri := by
  intro isOpen isLive
  rcases work.state uri with stateEq | ⟨_, _, validated⟩
  · rw [stateEq]
    exact settled (work.documents ▸ isOpen) (work.isLive_before isLive)
  · exact validated

theorem trans (first : Works parts before middle) (second : Works parts middle after) :
    Works parts before after where
  documents := second.documents.trans first.documents
  listens := fun listens => second.listens (first.listens listens)
  index := fun unwritten => (second.index unwritten).trans (first.index unwritten)
  changes := fun unwritten => (second.changes unwritten).trans (first.changes unwritten)
  schedule := fun unwritten => (second.schedule unwritten).trans (first.schedule unwritten)
  pending := fun task isPending => first.pending task (second.pending task isPending)
  dropped := by
    intro task isPending
    rcases first.dropped task isPending with isLeft | ⟨isValidation, settled⟩
    · exact second.dropped task isLeft
    · exact .inr ⟨isValidation, second.settled settled⟩
  state := by
    intro uri
    rcases second.state uri with secondEq | ⟨isOpen, isLive, validated⟩
    · rw [secondEq]
      exact first.state uri
    · exact .inr ⟨first.documents ▸ isOpen, first.isLive_before isLive, validated⟩
  published := by
    obtain ⟨firstSent, firstEq, firstVersions, firstChanges⟩ := first.published
    obtain ⟨secondSent, secondEq, secondVersions, secondChanges⟩ := second.published
    refine ⟨firstSent ++ secondSent, by rw [secondEq, firstEq, List.append_assoc], ?_, ?_⟩
    · intro publication isSent
      rcases List.mem_append.1 isSent with isFirst | isSecond
      · exact firstVersions publication isFirst
      · exact first.documents ▸ secondVersions publication isSecond
    · intro uri changed
      by_cases early : middle.lifecycle.state? uri = before.lifecycle.state? uri
      · obtain ⟨publication, isSent, uriEq⟩ := secondChanges uri (early ▸ changed)
        exact ⟨publication, List.mem_append_right _ isSent, uriEq⟩
      · obtain ⟨publication, isSent, uriEq⟩ := firstChanges uri early
        exact ⟨publication, List.mem_append_left _ isSent, uriEq⟩

theorem mono {wider : List Part} (work : Works parts before after) (fewer : parts ⊆ wider) :
    Works wider before after :=
  { work with
    index := fun unwritten => work.index fun written => unwritten (fewer written)
    changes := fun unwritten => work.changes fun written => unwritten (fewer written)
    schedule := fun unwritten => work.schedule fun written => unwritten (fewer written) }

/-- Work done for one thing after the other is work. -/
theorem foldl {Item : Type} {act : Session → Item → Session}
    (step : ∀ session item, Works parts session (act session item)) (session : Session)
    (items : List Item) : Works parts session (items.foldl act session) := by
  induction items generalizing session with
  | nil => exact refl session
  | cons item rest ih => exact (step session item).trans (ih (act session item))

end Works

/-! ## Validation -/

theorem diagnose_frame (session : Session) (files : FileTree) (document : Document) :
    ∃ workspace : Workspace, workspace.store = session.workspace.store ∧
      workspace.index = session.workspace.index ∧
        (session.diagnose files document).1 = { session with workspace } := by
  unfold diagnose
  split
  · exact ⟨_, session.workspace.store_withSpelling files,
      session.workspace.index_withSpelling files, rfl⟩
  · exact ⟨_, rfl, rfl, rfl⟩

/-- What the validation of an open document does. -/
theorem validate_of_live {session : Session} {uri : Uri} {document : Document}
    (documentEq : session.documents.get? uri = some document)
    (isLive : session.lifecycle.isLive uri = true) (files : FileTree) :
    session.validate files uri =
      { (session.diagnose files document).1 with
        lifecycle := (session.lifecycle.set uri .validating).set uri .validated }.send
          (.publish ⟨uri, (session.diagnose files document).2, some document.version⟩) := by
  have begun : session.lifecycle.begin? uri = some (session.lifecycle.set uri .validating) :=
    if_pos isLive
  cases isOn : session.workspace.isOn .diagnostics <;>
    simp only [validate, documentEq, begun, diagnose, isOn, Bool.false_eq_true, if_false, if_true,
      Lifecycle.finish?, Lifecycle.state?_set]

/-- Nothing is validated but open documents. -/
theorem validate_cases (session : Session) (files : FileTree) (uri : Uri) :
    (session.validate files uri = session ∧
      ¬ (session.documents.contains uri = true ∧ session.lifecycle.isLive uri = true)) ∨
    ∃ document, session.documents.get? uri = some document ∧
      session.lifecycle.isLive uri = true := by
  cases documentEq : session.documents.get? uri with
  | none =>
      left
      refine ⟨by simp [validate, documentEq], ?_⟩
      rintro ⟨isOpen, _⟩
      simp [OpenDocuments.contains_iff, documentEq] at isOpen
  | some document =>
      cases isLive : session.lifecycle.isLive uri with
      | false => exact .inl ⟨by simp [validate, documentEq, Lifecycle.begin?, isLive], by simp⟩
      | true => exact .inr ⟨document, rfl, rfl⟩

theorem validate_works (session : Session) (files : FileTree) (uri : Uri) :
    Works [] session (session.validate files uri) := by
  rcases session.validate_cases files uri with
    ⟨unchanged, _⟩ | ⟨document, documentEq, isLive⟩
  · rw [unchanged]
    exact .refl session
  · have resultEq := validate_of_live documentEq isLive files
    obtain ⟨workspace, storeEq, indexEq, diagnoseEq⟩ := session.diagnose_frame files document
    generalize (session.diagnose files document).2 = diagnostics at resultEq
    rw [diagnoseEq] at resultEq
    have stateEq (other : Uri) : (session.validate files uri).lifecycle.state? other =
        if other = uri then some .validated else session.lifecycle.state? other := by
      rw [resultEq, send, Lifecycle.state?_set_eq, Lifecycle.state?_set_eq]
      split <;> rfl
    have publicationsEq : (session.validate files uri).publications =
        session.publications ++ [⟨uri, diagnostics, some document.version⟩] := by
      rw [resultEq, publications_send]
      rfl
    constructor
    · rw [resultEq, send]
    · rw [resultEq, send]
      exact (Apart.ofWorkspace session storeEq).listens
    · rw [resultEq, send]
      exact fun _ => indexEq
    · rw [resultEq, send]
      exact fun _ => rfl
    · rw [resultEq, send]
      exact fun _ => rfl
    · rw [resultEq, send]
      exact fun _ isPending => isPending
    · rw [resultEq, send]
      exact fun _ isPending => .inl isPending
    · intro other
      rw [stateEq]
      by_cases isOwn : other = uri
      · rw [isOwn, if_pos rfl]
        exact .inr ⟨OpenDocuments.contains_iff.2 ⟨document, documentEq⟩, isLive, rfl⟩
      · exact .inl (if_neg isOwn)
    · refine ⟨_, publicationsEq, ?_, ?_⟩
      · intro publication isSent
        obtain rfl := List.mem_singleton.1 isSent
        exact ⟨document, documentEq, rfl⟩
      · intro other changed
        rw [stateEq] at changed
        by_cases isOwn : other = uri
        · exact ⟨_, List.mem_singleton_self _, isOwn.symm⟩
        · exact absurd (if_neg isOwn) changed

/-- After a validation the diagnostics of the document belong to its text. -/
theorem settled_validate (session : Session) (files : FileTree) (uri : Uri) :
    (session.validate files uri).Settled uri := by
  intro isOpen isLive
  rcases session.validate_cases files uri with
    ⟨unchanged, notBoth⟩ | ⟨document, documentEq, wasLive⟩
  · rw [unchanged] at isOpen isLive
    exact absurd ⟨isOpen, isLive⟩ notBoth
  · rw [validate_of_live documentEq wasLive, send, Lifecycle.state?_set]

theorem validateNow_works (session : Session) (files : FileTree) (uri : Uri) :
    Works [.tasks] session (session.validateNow files uri) := by
  have work := validate_works
    { session with schedule := session.schedule.cancel ⟨uri, .validate⟩ } files uri
  constructor
  · exact work.documents
  · exact work.listens
  · exact fun _ => work.index (by simp)
  · exact fun _ => work.changes (by simp)
  · simp
  · exact fun task isPending =>
      (Schedule.isPending_cancel.1 (work.pending task isPending)).1
  · intro task isPending
    by_cases isCancelled : task = ⟨uri, .validate⟩
    · subst isCancelled
      exact .inr ⟨rfl, settled_validate _ files uri⟩
    · exact work.dropped task (Schedule.isPending_cancel.2 ⟨isPending, isCancelled⟩)
  · exact work.state
  · exact work.published

theorem revalidateProject_works (session : Session) (files : FileTree) (uri : Uri) :
    Works [] session (session.revalidateProject files uri) :=
  .foldl (fun session other => session.validate_works files other) session _

theorem revalidateAll_works (session : Session) (files : FileTree) :
    Works [.tasks] session (session.revalidateAll files) :=
  .foldl (fun session uri => session.validateNow_works files uri) session _

/-! ## Tasks that are due -/

def withIndex (session : Session) (index : ProjectIndex) : Session :=
  { session with workspace := { session.workspace with index } }

theorem runTask_cases (session : Session) (files : FileTree) (task : DelayedTask) :
    (task.kind = .validate ∧ session.runTask files task = session.validate files task.uri) ∨
    (task.kind = .index ∧ session.documents.get? task.uri = none ∧
      session.runTask files task = session) ∨
    ∃ document, task.kind = .index ∧ session.documents.get? task.uri = some document ∧
      session.runTask files task =
        (session.withIndex (session.workspace.index.insert document)).revalidateProject
          files task.uri := by
  unfold runTask
  cases task.kind with
  | validate => exact .inl ⟨rfl, rfl⟩
  | index =>
      cases session.documents.get? task.uri with
      | none => exact .inr (.inl ⟨rfl, rfl, rfl⟩)
      | some document => exact .inr (.inr ⟨document, rfl, rfl, rfl⟩)

theorem runTask_works (session : Session) (files : FileTree) (task : DelayedTask) :
    Works [.index] session (session.runTask files task) := by
  rcases session.runTask_cases files task with
    ⟨_, resultEq⟩ | ⟨_, _, resultEq⟩ | ⟨document, _, _, resultEq⟩
  · rw [resultEq]
    exact (session.validate_works files task.uri).mono (by simp)
  · rw [resultEq]
    exact .refl session
  · rw [resultEq]
    have indexed : Works [.index] session
        (session.withIndex (session.workspace.index.insert document)) :=
      .ofApart (.ofWorkspace session rfl) (by simp) (fun _ => rfl)
    exact indexed.trans ((revalidateProject_works _ files task.uri).mono (by simp))

theorem runTasks_works (session : Session) (files : FileTree) (tasks : List DelayedTask) :
    Works [.index] session (tasks.foldl (·.runTask files ·) session) :=
  .foldl (fun session task => session.runTask_works files task) session tasks

/-- When some tasks have been run, every document that was to be validated is. -/
theorem settled_runTasks (session : Session) (files : FileTree) {tasks : List DelayedTask}
    {uri : Uri} (isTask : ⟨uri, .validate⟩ ∈ tasks) :
    (tasks.foldl (·.runTask files ·) session).Settled uri := by
  induction tasks generalizing session with
  | nil => simp at isTask
  | cons task rest ih =>
      rcases List.mem_cons.1 isTask with rfl | isLater
      · exact (runTasks_works _ files rest).settled (session.settled_validate files uri)
      · exact ih (session.runTask files task) isLater

end Session

end Gamebook
