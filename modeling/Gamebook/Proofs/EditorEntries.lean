import Mathlib.Data.List.Induction
import Gamebook.Proofs.DocumentLife
import Gamebook.Proofs.IndexUpkeep

/-!
# The entries of open documents

What is in the editor counts, whatever is on disk.  An open document has an entry in
the index, and the entry was made from a text that the document has had since it was
last opened.  Only a change of the text makes the entry out of date, and then it is
made anew when the task is due that the change has left behind.
-/

namespace Gamebook

namespace Session

variable {session : Session} {uri : Uri}

/-! ## One event -/

/-- A document that is open was open before, and either it has been indexed as it is, or
its entry has stayed and a text that has changed since waits to be indexed. -/
def KeepsEntry (before after : Session) (uri : Uri) : Prop :=
  ∀ document, after.documents.get? uri = some document →
    ∃ previous, before.documents.get? uri = some previous ∧
      (after.workspace.index.get? uri = some (.ofDocument document) ∨
        after.workspace.index.get? uri = before.workspace.index.get? uri ∧
          (after.schedule.isPending ⟨uri, .index⟩ = false →
            document = previous ∧ before.schedule.isPending ⟨uri, .index⟩ = false))

theorem Works.isPending_index_before {parts : List Part} {before after : Session}
    (work : Works parts before after)
    (notPending : after.schedule.isPending ⟨uri, .index⟩ = false) :
    before.schedule.isPending ⟨uri, .index⟩ = false := by
  rw [← Bool.not_eq_true]
  intro wasPending
  rcases work.dropped _ wasPending with isPending | ⟨isValidation, _⟩
  · simp [notPending] at isPending
  · simp at isValidation

theorem keepsEntry_of_works {parts : List Part} {before after : Session}
    (work : Works parts before after)
    (sameEntry : before.documents.contains uri = true →
      after.workspace.index.get? uri = before.workspace.index.get? uri) :
    KeepsEntry before after uri := by
  intro document documentEq
  rw [work.documents] at documentEq
  refine ⟨document, documentEq, .inr ⟨?_, ?_⟩⟩
  · exact sameEntry (OpenDocuments.contains_iff.2 ⟨document, documentEq⟩)
  · exact fun notPending => ⟨rfl, work.isPending_index_before notPending⟩

theorem keepsEntry_opened {opened : Document} (different : uri ≠ opened.uri)
    (files : FileTree) :
    KeepsEntry session ((session.withOpened files opened).validate files opened.uri) uri := by
  intro document documentEq
  have work := (session.withOpened files opened).validate_works files opened.uri
  have wasOpen : session.documents.get? uri = some document := by
    rwa [work.documents, withOpened, OpenDocuments.get?_insert, if_neg different] at documentEq
  refine ⟨document, wasOpen, .inr ⟨?_, ?_⟩⟩
  · rw [work.index (by simp), withOpened, withIndex]
    exact get?_openingIndex_of_ne different
      fun _ => OpenDocuments.contains_iff.2 ⟨document, wasOpen⟩
  · exact fun notPending => ⟨rfl, work.isPending_index_before notPending⟩

theorem keepsEntry_withChanged (session : Session) (now : Nat) {previous : Document}
    (previousEq : session.documents.get? previous.uri = some previous) (version : Int)
    (changes : List TextChange) :
    KeepsEntry session
      (session.withChanged now previous.uri (OpenDocuments.changed previous version changes))
      uri := by
  intro document documentEq
  rw [withChanged, OpenDocuments.get?_insert] at documentEq
  by_cases isOwn : uri = (OpenDocuments.changed previous version changes).uri
  · obtain rfl : uri = previous.uri := isOwn
    refine ⟨previous, previousEq, .inr ⟨rfl, ?_⟩⟩
    -- the new text waits to be indexed
    intro notPending
    simp [withChanged, Schedule.isPending_schedule, ← Bool.not_eq_true] at notPending
  · rw [if_neg isOwn] at documentEq
    refine ⟨document, documentEq, .inr ⟨rfl, ?_⟩⟩
    intro notPending
    refine ⟨rfl, ?_⟩
    rw [← Bool.not_eq_true] at notPending ⊢
    intro wasPending
    apply notPending
    rw [withChanged, Schedule.isPending_schedule, Schedule.isPending_schedule]
    exact .inr (.inr wasPending)

theorem keepsEntry_closed (session : Session) (files : FileTree) (closed : Uri) :
    KeepsEntry session ((session.withClosed files closed).revalidateProject files closed) uri := by
  intro document documentEq
  have work := (session.withClosed files closed).revalidateProject_works files closed
  rw [work.documents, withClosed, send, OpenDocuments.get?_erase] at documentEq
  by_cases isOwn : uri = closed
  · simp [isOwn] at documentEq
  · rw [if_neg isOwn] at documentEq
    refine ⟨document, documentEq, .inr ⟨?_, ?_⟩⟩
    · rw [work.index (by simp), withClosed, send, withIndex]
      exact get?_closingIndex_of_ne isOwn files
    · intro notPending
      refine ⟨rfl, ?_⟩
      have notLeft := work.isPending_index_before notPending
      rw [← Bool.not_eq_true, withClosed, send, Schedule.isPending_cancelDocument] at notLeft
      rw [← Bool.not_eq_true]
      exact fun wasPending => notLeft ⟨wasPending, isOwn⟩

theorem keepsEntry_due (filed : ∀ uri document,
      session.documents.get? uri = some document → document.uri = uri) (files : FileTree)
    (now : Nat) :
    KeepsEntry session ((session.schedule.takeDue now).2.foldl (·.runTask files ·)
      (session.withTaken now)) uri := by
  intro document documentEq
  have work := (session.withTaken now).runTasks_works files (session.schedule.takeDue now).2
  rw [work.documents] at documentEq
  have entryEq := @get?_runTasks (session.withTaken now) uri filed document documentEq files
    (session.schedule.takeDue now).2
  refine ⟨document, documentEq, ?_⟩
  by_cases isDue : ⟨uri, .index⟩ ∈ (session.schedule.takeDue now).2
  · exact .inl (entryEq.trans (if_pos isDue))
  · refine .inr ⟨entryEq.trans (if_neg isDue), ?_⟩
    intro notPending
    refine ⟨rfl, ?_⟩
    have notLeft := work.isPending_index_before notPending
    rw [← Bool.not_eq_true] at notLeft ⊢
    exact fun wasPending =>
      (Schedule.takeDue_cases now wasPending).elim notLeft isDue

theorem keepsEntry_pass (inOrder : ∀ uri, InOrder [] session uri) {moment : Moment}
    (notOpened : ¬ moment.Opens uri) : KeepsEntry session (session.pass moment) uri := by
  have filed := fun uri => (inOrder uri).filed
  have reacts := session.reacts_pass moment
  generalize session.pass moment = after at reacts ⊢
  cases reacts with
  | opened document told =>
      have different : uri ≠ document.uri :=
        fun isOwn => notOpened ⟨document, told, isOwn.symm⟩
      exact keepsEntry_opened different moment.files
  | @changed changed document version changes isOpen =>
      obtain rfl := filed changed document isOpen
      exact session.keepsEntry_withChanged moment.now isOpen version changes
  | closed closed => exact session.keepsEntry_closed moment.files closed
  | due => exact keepsEntry_due filed moment.files moment.now
  | rested rests =>
      exact keepsEntry_of_works rests.works fun _ => congrArg (·.get? uri) rests.index
  | refreshed refreshes =>
      exact keepsEntry_of_works refreshes.works fun _ => congrArg (·.get? uri) refreshes.index_eq
  | followed changes _ refreshes =>
      refine keepsEntry_of_works refreshes.works fun isOpen => ?_
      rw [refreshes.index_eq, get?_followed_of_open isOpen]

/-! ## Every history -/

namespace HasBeen

variable {start : Session} {history : List Moment} {moment : Moment} {document : Document}

end HasBeen

theorem get?_of_opened (session : Session) {moment : Moment} {opened : Document}
    (told : moment.told? = some (.opened opened)) :
    (session.pass moment).documents.get? opened.uri = some opened ∧
      (session.pass moment).workspace.index.get? opened.uri = some (.ofDocument opened) := by
  have work := (session.withOpened moment.files opened).validate_works moment.files opened.uri
  rw [session.pass_of_told told, notify, openDocument_eq, work.documents, work.index (by simp)]
  constructor
  · rw [withOpened, OpenDocuments.get?_insert, if_pos rfl]
  · exact session.get?_openingIndex_self moment.files opened

end Session

end Gamebook
