import Gamebook.Proofs.DiagnosticsFreshness
import Gamebook.Proofs.DocumentTurns
import Gamebook.Proofs.IndexUpkeep
import Gamebook.Proofs.SceneFiles

/-!
# Keeping diagnostics up to date

A document is attended to when its diagnostics are up to date, or when something waits
that will bring them up to date: a change of settings, its own validation, or the
indexing of another document of its project.  Every event but the opening of another
document of the project leaves a document attended to that was so before, and attends
to it when anything is published for it.
-/

namespace Gamebook

namespace Session

variable {session before after : Session} {document : Document}

/-! ## Attention -/

/-- Something waits that will bring the diagnostics of a document up to date. -/
def Waits (session : Session) (uri : Uri) : Prop :=
  session.changes ≠ [] ∨ session.schedule.isPending ⟨uri, .validate⟩ = true ∨
    ∃ other, other ≠ uri ∧ Uri.project other = Uri.project uri ∧
      session.schedule.isPending ⟨other, .index⟩ = true

/-- The diagnostics of a document are up to date or will be. -/
def Attends (session : Session) (document : Document) : Prop :=
  session.Fresh document ∨ session.Waits document.uri

/-- A document is attended to in the end, unless it was not so before and nothing has been
published for it. -/
def Minds (document : Document) (before after : Session) : Prop :=
  after.Attends document ∨
    after.publicationsFor document.uri = before.publicationsFor document.uri ∧
      ¬ before.Attends document

theorem Waits.mono {uri : Uri} (waits : before.Waits uri) (changes : after.changes = before.changes)
    (pending : ∀ task, Uri.project task.uri = Uri.project uri →
      before.schedule.isPending task = true → after.schedule.isPending task = true) :
    after.Waits uri := by
  rcases waits with undelivered | isPending | ⟨other, different, sameProject, isPending⟩
  · exact .inl (changes ▸ undelivered)
  · exact .inr (.inl (pending ⟨uri, .validate⟩ rfl isPending))
  · exact .inr (.inr ⟨other, different, sameProject,
      pending ⟨other, .index⟩ sameProject isPending⟩)

namespace Minds

theorem refl (document : Document) (session : Session) : Minds document session session := by
  by_cases attended : session.Attends document
  · exact .inl attended
  · exact .inr ⟨rfl, attended⟩

theorem ofFresh (isFresh : after.Fresh document) : Minds document before after :=
  .inl (.inl isFresh)

theorem ofWaits (waits : after.Waits document.uri) : Minds document before after :=
  .inl (.inr waits)

theorem ofUpholds (upholds : Upholds document before after)
    (waits : before.Waits document.uri → after.Attends document) :
    Minds document before after := by
  rcases upholds with isFresh | ⟨published, keeps⟩
  · exact ofFresh isFresh
  · by_cases attended : before.Attends document
    · rcases attended with wasFresh | waited
      · exact ofFresh (keeps wasFresh)
      · exact .inl (waits waited)
    · exact .inr ⟨published, attended⟩

end Minds

theorem Rests.minds (rests : Rests before after) (listens : before.Listens)
    (document : Document) : Minds document before after := by
  refine .ofUpholds (rests.upholds listens document) ?_
  exact fun waits => .inr (waits.mono rests.changes fun _ _ isPending => rests.schedule ▸ isPending)

theorem minds_replace (listens : session.Listens) (settings : Settings) :
    Minds document session (session.updateSettings (·.replace settings)) := by
  rcases replace_cases listens settings with undelivered | rests
  · exact .ofWaits (.inl undelivered)
  · exact rests.minds listens document

/-! ## Documents -/

theorem fresh_opened (session : Session) (files : FileTree) (document : Document) :
    ((session.withOpened files document).validate files document.uri).Fresh document := by
  apply fresh_validate
  constructor
  · rw [withOpened, OpenDocuments.get?_insert, if_pos rfl]
  · exact Lifecycle.isLive_iff.2 ⟨.unvalidated, Lifecycle.state?_set _ _ _, by simp⟩

theorem minds_opened {files : FileTree} (plain : files.HasPlainNames) {opened : Document}
    (foreign : Uri.project document.uri ≠ Uri.project opened.uri) :
    Minds document session ((session.withOpened files opened).validate files opened.uri) := by
  have different : document.uri ≠ opened.uri := fun same => foreign (congrArg Uri.project same)
  have work := (session.withOpened files opened).validate_works files opened.uri
  have indexed : Upholds document session (session.withOpened files opened) := by
    refine .ofIndex rfl rfl ?_
    intro uri _ sameProject
    rw [← sameProject] at foreign
    apply get?_openingIndex_of_ne (fun same => foreign (congrArg Uri.project same))
    intro isBeside
    exact absurd (project_of_mem_sceneFilesBeside plain isBeside) foreign
  refine .ofUpholds (indexed.trans (upholds_validate_of_ne different files)) ?_
  intro waits
  refine .inr (waits.mono (work.changes (by simp)) ?_)
  intro task _ isPending
  rw [work.schedule (by simp)]
  exact isPending

theorem waits_withChanged (session : Session) (now : Nat) (uri : Uri) (document : Document) :
    (session.withChanged now uri document).Waits uri := by
  refine .inr (.inl ?_)
  rw [withChanged, Schedule.isPending_schedule, Schedule.isPending_schedule]
  exact .inr (.inl rfl)

theorem minds_withChanged (session : Session) (document : Document) (now : Nat) (uri : Uri)
    (changed : Document) : Minds document session (session.withChanged now uri changed) := by
  refine .ofUpholds (.ofShowsAlike rfl (.refl session.workspace)) ?_
  intro waits
  refine .inr (waits.mono rfl ?_)
  intro task _ isPending
  rw [withChanged, Schedule.isPending_schedule, Schedule.isPending_schedule]
  exact .inr (.inr isPending)

theorem minds_closed (serves : session.Serves document) (files : FileTree) {closed : Uri}
    (different : document.uri ≠ closed) :
    Minds document session ((session.withClosed files closed).revalidateProject files closed) := by
  have work := (session.withClosed files closed).revalidateProject_works files closed
  have published := session.publicationsFor_withClosed files closed document.uri
  rw [if_neg different, List.append_nil] at published
  have stillServes : (session.withClosed files closed).Serves document := by
    constructor
    · rw [withClosed, send, OpenDocuments.get?_erase, if_neg different]
      exact serves.isOpen
    · have stateEq := session.lifecycle.state?_set_of_ne .disposed (Ne.symm different)
      rw [withClosed, send, Lifecycle.disposed, Lifecycle.isLive, stateEq]
      exact serves.isLive
  by_cases sameProject : Uri.project document.uri = Uri.project closed
  · exact .ofFresh (fresh_revalidateProject stillServes different sameProject files)
  · have indexed : Upholds document session (session.withClosed files closed) := by
      refine .ofIndex published rfl ?_
      intro uri _ sameAsDocument
      apply get?_closingIndex_of_ne
      rintro rfl
      exact sameProject sameAsDocument.symm
    refine .ofUpholds (indexed.trans (upholds_revalidateProject stillServes files closed)) ?_
    intro waits
    refine .inr (waits.mono (work.changes (by simp)) ?_)
    intro task inProject isPending
    rw [work.schedule (by simp), withClosed, send, Schedule.isPending_cancelDocument]
    refine ⟨isPending, ?_⟩
    rintro rfl
    exact sameProject inProject.symm

/-! ## Tasks -/

theorem Serves.withIndex (serves : session.Serves document) (index : ProjectIndex) :
    (session.withIndex index).Serves document :=
  ⟨serves.isOpen, serves.isLive⟩

theorem upholds_runTask (serves : session.Serves document) (filed : ∀ uri document,
      session.documents.get? uri = some document → document.uri = uri) (files : FileTree)
    (task : DelayedTask) : Upholds document session (session.runTask files task) := by
  rcases session.runTask_cases files task with
    ⟨_, resultEq⟩ | ⟨_, _, resultEq⟩ | ⟨indexed, _, indexedEq, resultEq⟩
  · rw [resultEq]
    exact upholds_validate serves files task.uri
  · rw [resultEq]
    exact .refl document session
  · rw [resultEq, ← filed task.uri indexed indexedEq]
    by_cases concerned : document.uri ≠ indexed.uri ∧
        Uri.project document.uri = Uri.project indexed.uri
    · exact .inl (fresh_revalidateProject (serves.withIndex _) concerned.1 concerned.2 files)
    · -- the entry is the document's own, or of another project
      have indexedOnly : Upholds document session
          (session.withIndex (session.workspace.index.insert indexed)) := by
        refine .ofIndex rfl rfl ?_
        intro other different sameProject
        apply ProjectIndex.get?_insert_of_ne
        rintro rfl
        exact concerned ⟨Ne.symm different, sameProject.symm⟩
      exact indexedOnly.trans (upholds_revalidateProject (serves.withIndex _) files _)

theorem fresh_runTask_index (serves : session.Serves document) {uri : Uri}
    (isOpen : session.documents.contains uri = true) (different : uri ≠ document.uri)
    (sameProject : Uri.project uri = Uri.project document.uri) (files : FileTree) :
    (session.runTask files ⟨uri, .index⟩).Fresh document := by
  obtain ⟨indexed, indexedEq⟩ := OpenDocuments.contains_iff.1 isOpen
  rcases session.runTask_cases files ⟨uri, .index⟩ with
    ⟨isValidation, _⟩ | ⟨_, notOpen, _⟩ | ⟨_, _, _, resultEq⟩
  · simp at isValidation
  · simp [indexedEq] at notOpen
  · rw [resultEq]
    exact fresh_revalidateProject (serves.withIndex _) (Ne.symm different) sameProject.symm files

theorem minds_due (serves : session.Serves document) (inOrder : ∀ uri, InOrder [] session uri)
    (files : FileTree) (now : Nat) :
    Minds document session ((session.schedule.takeDue now).2.foldl (·.runTask files ·)
      (session.withTaken now)) := by
  have taken : Upholds document session (session.withTaken now) :=
    .ofShowsAlike rfl (.refl session.workspace)
  have stillServes : (session.withTaken now).Serves document := ⟨serves.isOpen, serves.isLive⟩
  have works (session : Session) (task : DelayedTask) := session.runTask_works files task
  have upholds (later : Session) (task : DelayedTask)
      (work : Works [.index] (session.withTaken now) later) :
      Upholds document later (later.runTask files task) :=
    upholds_runTask (work.serves stillServes)
      (fun uri => work.documents ▸ (inOrder uri).filed) files task
  have work := (session.withTaken now).runTasks_works files (session.schedule.takeDue now).2
  have scheduleEq := work.schedule (by simp)
  refine .ofUpholds (taken.trans (upholds_foldl works upholds _)) ?_
  rintro (undelivered | isPending | ⟨other, different, sameProject, isPending⟩)
  · exact .inr (.inl (work.changes (by simp) ▸ undelivered))
  · rcases Schedule.takeDue_cases now isPending with isLeft | isDue
    · exact .inr (.inr (.inl (scheduleEq ▸ isLeft)))
    · exact .inl (fresh_foldl works upholds isDue fun later work =>
        fresh_validate (work.serves stillServes) files)
  · rcases Schedule.takeDue_cases now isPending with isLeft | isDue
    · exact .inr (.inr (.inr ⟨other, different, sameProject, scheduleEq ▸ isLeft⟩))
    · have isOpen := (inOrder other).pending_open .index isPending
      exact .inl (fresh_foldl works upholds isDue fun later work =>
        fresh_runTask_index (work.serves stillServes) (work.documents ▸ isOpen) different
          sameProject files)

end Session

end Gamebook
