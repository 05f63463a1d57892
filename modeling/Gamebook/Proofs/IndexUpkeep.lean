import Gamebook.Proofs.SessionSteps

/-!
# Who writes the index

A session writes its index when a document is opened, closed or indexed again, and
when files on disk have changed.  An entry changes only if its own document is opened,
closed or indexed, or its own file has been read again, which is never done for an open
document.
-/

namespace Gamebook

namespace ProjectIndex

variable {index : ProjectIndex} {uri : Uri}

theorem get?_update_of_forall_ne {documents : List Document}
    (others : ∀ document ∈ documents, uri ≠ document.uri) :
    (index.update documents).get? uri = index.get? uri := by
  induction documents generalizing index with
  | nil => rfl
  | cons document rest ih =>
      obtain ⟨isOther, restOthers⟩ := List.forall_mem_cons.1 others
      calc (index.update (document :: rest)).get? uri
          = (index.insert document).get? uri := ih restOthers
        _ = index.get? uri := index.get?_insert_of_ne isOther

theorem get?_purge_of_ne {other : Uri} (different : uri ≠ other) :
    (index.purge [other]).get? uri = index.get? uri :=
  get?_purge_of_notMem (by simpa using different)

end ProjectIndex

theorem uri_of_readScene? {files : FileTree} {uri : Uri} {document : Document}
    (isRead : readScene? files uri = some document) : document.uri = uri := by
  obtain ⟨path, _, rest⟩ := Option.bind_eq_some_iff.1 isRead
  obtain ⟨text, _, documentEq⟩ := Option.bind_eq_some_iff.1 rest
  rw [← Option.some.inj documentEq]
  rfl

namespace Session

variable {session : Session} {uri : Uri}

/-! ## Opening and closing -/

theorem get?_openingIndex_self (session : Session) (files : FileTree) (document : Document) :
    (session.openingIndex files document).get? document.uri = some (.ofDocument document) := by
  rw [openingIndex, ProjectIndex.get?_insert, if_pos rfl]

/-- With a document come those scene files beside it that are not open. -/
theorem get?_openingIndex_of_ne {files : FileTree} {opened : Document}
    (different : uri ≠ opened.uri)
    (notBeside : uri ∈ sceneFilesBeside files opened.uri →
      session.documents.contains uri = true) :
    (session.openingIndex files opened).get? uri = session.workspace.index.get? uri := by
  rw [openingIndex, ProjectIndex.get?_insert_of_ne _ different]
  split
  · rfl
  · apply ProjectIndex.get?_update_of_forall_ne
    intro document isLoaded
    obtain ⟨sibling, isSibling, isRead⟩ := List.mem_filterMap.1 isLoaded
    obtain ⟨isBeside, notOpen⟩ := List.mem_filter.1 isSibling
    rw [uri_of_readScene? isRead]
    rintro rfl
    simp [notBeside isBeside] at notOpen

theorem get?_closingIndex_of_ne {closed : Uri} (different : uri ≠ closed) (files : FileTree) :
    (session.closingIndex files closed).get? uri = session.workspace.index.get? uri := by
  unfold closingIndex
  split
  · rename_i document isRead
    rw [← uri_of_readScene? isRead] at different
    exact ProjectIndex.get?_insert_of_ne _ different
  · exact ProjectIndex.get?_purge_of_ne different

/-! ## Files on disk -/

theorem get?_followFile_of_ne {change : FileChange} (different : uri ≠ change.uri)
    (files : FileTree) :
    (session.followFile files change).workspace.index.get? uri =
      session.workspace.index.get? uri := by
  unfold followFile
  cases change.isDeleted with
  | true => exact ProjectIndex.get?_purge_of_ne different
  | false =>
      apply ProjectIndex.get?_update_of_forall_ne
      intro document isRead
      rw [uri_of_readScene? (Option.mem_toList.1 isRead)]
      exact different

theorem get?_followEach_of_forall_ne {changes : List FileChange}
    (others : ∀ change ∈ changes, uri ≠ change.uri) (files : FileTree) :
    (changes.foldl (·.followFile files ·) session).workspace.index.get? uri =
      session.workspace.index.get? uri := by
  induction changes generalizing session with
  | nil => rfl
  | cons change rest ih =>
      obtain ⟨isOther, restOthers⟩ := List.forall_mem_cons.1 others
      rw [List.foldl_cons, ih restOthers, get?_followFile_of_ne isOther]

theorem get?_followed_of_open (isOpen : session.documents.contains uri = true)
    (files : FileTree) (changes : List FileChange) :
    ((changes.filter session.concerns).foldl (·.followFile files ·) session).workspace.index.get?
        uri = session.workspace.index.get? uri := by
  apply get?_followEach_of_forall_ne
  intro change isConcerned
  have notOpen := (Bool.and_eq_true_iff.1 (List.mem_filter.1 isConcerned).2).2
  rintro rfl
  simp [isOpen] at notOpen

/-! ## Tasks -/

theorem get?_runTask (filed : ∀ uri document, session.documents.get? uri = some document →
      document.uri = uri) {document : Document}
    (documentEq : session.documents.get? uri = some document) (files : FileTree)
    (task : DelayedTask) :
    (session.runTask files task).workspace.index.get? uri =
      if task = ⟨uri, .index⟩ then some (.ofDocument document)
      else session.workspace.index.get? uri := by
  rcases session.runTask_cases files task with
    ⟨isValidation, resultEq⟩ | ⟨_, notOpen, resultEq⟩ | ⟨indexed, isIndexing, indexedEq, resultEq⟩
  · rw [resultEq, (session.validate_works files task.uri).index (by simp), if_neg]
    rintro rfl
    simp at isValidation
  · rw [resultEq, if_neg]
    rintro rfl
    simp [documentEq] at notOpen
  · have indexedUri := filed task.uri indexed indexedEq
    have inserted : (session.workspace.index.insert indexed).get? uri =
        if uri = indexed.uri then some (.ofDocument indexed)
        else session.workspace.index.get? uri := ProjectIndex.get?_insert indexed
    rw [resultEq, (revalidateProject_works _ files task.uri).index (by simp)]
    refine inserted.trans ?_
    by_cases isOwn : task.uri = uri
    · rw [isOwn] at indexedEq indexedUri
      have taskEq : task = ⟨uri, .index⟩ := congrArg₂ DelayedTask.mk isOwn isIndexing
      rw [if_pos indexedUri.symm, if_pos taskEq, Option.some.inj (documentEq.symm.trans indexedEq)]
    · have isOther : task ≠ ⟨uri, .index⟩ := fun same => isOwn (congrArg DelayedTask.uri same)
      rw [indexedUri, if_neg (Ne.symm isOwn), if_neg isOther]

theorem get?_runTasks (filed : ∀ uri document, session.documents.get? uri = some document →
      document.uri = uri) {document : Document}
    (documentEq : session.documents.get? uri = some document) (files : FileTree)
    (tasks : List DelayedTask) :
    (tasks.foldl (·.runTask files ·) session).workspace.index.get? uri =
      if ⟨uri, .index⟩ ∈ tasks then some (.ofDocument document)
      else session.workspace.index.get? uri := by
  induction tasks generalizing session with
  | nil => simp
  | cons task rest ih =>
      have sameDocuments := (session.runTask_works files task).documents
      have later := @ih (session.runTask files task) (by rwa [sameDocuments])
        (by rwa [sameDocuments])
      rw [List.foldl_cons, later, get?_runTask filed documentEq]
      by_cases isLater : ⟨uri, .index⟩ ∈ rest
      · simp [isLater]
      · simp only [isLater, List.mem_cons, or_false, if_false, eq_comm (a := task)]

end Session

end Gamebook
