import Gamebook.Proofs.SessionSteps

/-!
# Diagnostics that are up to date

What is shown for a document is up to date when the last diagnostics published for it
are the ones a validation would find now.  A validation brings its own document up to
date and makes no other one out of date, because it writes nothing that another
validation reads, unless the dictionaries have not been loaded yet.
-/

namespace Gamebook

namespace Session

variable {session before middle after : Session} {parts : List Part} {document : Document}

/-! ## What a validation finds -/

theorem isLoaded_diagnose (session : Session) (files : FileTree) (document : Document) :
    (session.diagnose files document).1.workspace.IsLoaded := by
  unfold diagnose
  split
  · exact session.workspace.isLoaded_withSpelling files
  · rename_i isOff
    exact fun isOn => absurd isOn isOff

theorem diagnose_eq_shown (session : Session) (files : FileTree) (document : Document) :
    (session.diagnose files document).2 =
      (session.diagnose files document).1.workspace.shown document := by
  unfold diagnose
  split
  · rename_i isOn
    have isStillOn : (session.workspace.withSpelling files).isOn .diagnostics = true :=
      (session.workspace.isOn_withSpelling files _).trans isOn
    exact (if_pos isStillOn).symm
  · rename_i isOff
    exact (if_neg isOff).symm

theorem showsAlike_diagnose (session : Session) (files : FileTree) (document : Document) :
    session.workspace.ShowsAlike (session.diagnose files document).1.workspace := by
  unfold diagnose
  split
  · exact session.workspace.showsAlike_withSpelling files
  · exact .refl session.workspace

theorem shown_diagnose (isLoaded : session.workspace.IsLoaded) (files : FileTree)
    (validated document : Document) :
    (session.diagnose files validated).1.workspace.shown document =
      session.workspace.shown document :=
  (session.showsAlike_diagnose files validated).shown isLoaded document

/-! ## Freshness -/

/-- The last diagnostics published for a document are the ones to be shown. -/
structure Fresh (session : Session) (document : Document) : Prop where
  isLoaded : session.workspace.IsLoaded
  published : ∃ publication, (session.publicationsFor document.uri).getLast? = some publication ∧
    publication.diagnostics = session.workspace.shown document

namespace Fresh

/-- A validation would find what has been published, whatever is on disk. -/
theorem eq_diagnose (fresh : session.Fresh document) :
    ∃ publication, (session.publicationsFor document.uri).getLast? = some publication ∧
      ∀ files, publication.diagnostics = (session.diagnose files document).2 := by
  obtain ⟨publication, lastEq, shownEq⟩ := fresh.published
  refine ⟨publication, lastEq, ?_⟩
  intro files
  rw [diagnose_eq_shown, shown_diagnose fresh.isLoaded, shownEq]

theorem congr (fresh : before.Fresh document)
    (published : after.publicationsFor document.uri = before.publicationsFor document.uri)
    (isLoaded : after.workspace.IsLoaded)
    (shown : after.workspace.shown document = before.workspace.shown document) :
    after.Fresh document where
  isLoaded := isLoaded
  published := by
    rw [published, shown]
    exact fresh.published

end Fresh

/-- A document ends up to date, or nothing is published for it and it is up to date if it
was. -/
def Upholds (document : Document) (before after : Session) : Prop :=
  after.Fresh document ∨
    after.publicationsFor document.uri = before.publicationsFor document.uri ∧
      (before.Fresh document → after.Fresh document)

namespace Upholds

theorem refl (document : Document) (session : Session) : Upholds document session session :=
  .inr ⟨rfl, id⟩

theorem trans (first : Upholds document before middle) (second : Upholds document middle after) :
    Upholds document before after := by
  rcases second with isFresh | ⟨secondSame, secondKeeps⟩
  · exact .inl isFresh
  · rcases first with wasFresh | ⟨firstSame, firstKeeps⟩
    · exact .inl (secondKeeps wasFresh)
    · exact .inr ⟨secondSame.trans firstSame, fun wasFresh => secondKeeps (firstKeeps wasFresh)⟩

theorem fresh (upholds : Upholds document before after) (wasFresh : before.Fresh document) :
    after.Fresh document := by
  rcases upholds with isFresh | ⟨_, keeps⟩
  · exact isFresh
  · exact keeps wasFresh

theorem ofShowsAlike
    (published : after.publicationsFor document.uri = before.publicationsFor document.uri)
    (alike : before.workspace.ShowsAlike after.workspace) : Upholds document before after :=
  .inr ⟨published, fun wasFresh => wasFresh.congr published (alike.isLoaded wasFresh.isLoaded)
    (alike.shown wasFresh.isLoaded document)⟩

/-- Of the index, only the other documents of the project matter. -/
theorem ofIndex {index : ProjectIndex}
    (published : after.publicationsFor document.uri = before.publicationsFor document.uri)
    (workspace : after.workspace = { before.workspace with index })
    (agree : ∀ uri, uri ≠ document.uri → Uri.project uri = Uri.project document.uri →
      index.get? uri = before.workspace.index.get? uri) :
    Upholds document before after := by
  refine .inr ⟨published, fun wasFresh => wasFresh.congr published ?_ ?_⟩
  · rw [workspace]
    exact wasFresh.isLoaded
  · rw [workspace]
    exact Workspace.shown_eq rfl rfl rfl (ProjectIndex.around_alike agree)

end Upholds

theorem Rests.upholds (rests : Rests before after) (listens : before.Listens)
    (document : Document) : Upholds document before after := by
  refine .ofShowsAlike ?_ (rests.alike listens)
  rw [publicationsFor, rests.publications, publicationsFor]

/-! ## Validations -/

/-- A document is open, and can be validated. -/
structure Serves (session : Session) (document : Document) : Prop where
  isOpen : session.documents.get? document.uri = some document
  isLive : session.lifecycle.isLive document.uri = true

theorem Works.serves (work : Works parts before after) (serves : before.Serves document) :
    after.Serves document where
  isOpen := work.documents ▸ serves.isOpen
  isLive := by
    rcases work.state document.uri with stateEq | ⟨_, _, validated⟩
    · rw [Lifecycle.isLive, stateEq]
      exact serves.isLive
    · exact Lifecycle.isLive_iff.2 ⟨_, validated, by simp⟩

theorem Serves.mem_uris (serves : session.Serves document) :
    document.uri ∈ session.documents.uris :=
  OpenDocuments.mem_uris.2 (OpenDocuments.contains_iff.2 ⟨document, serves.isOpen⟩)

theorem publicationsFor_validate {validated : Uri}
    (documentEq : session.documents.get? validated = some document)
    (isLive : session.lifecycle.isLive validated = true) (files : FileTree) (uri : Uri) :
    (session.validate files validated).publicationsFor uri =
      session.publicationsFor uri ++ if uri = validated then
        [⟨validated, (session.diagnose files document).2, some document.version⟩] else [] := by
  have sent : (session.diagnose files document).1.outbox = session.outbox := by
    obtain ⟨workspace, _, _, diagnoseEq⟩ := session.diagnose_frame files document
    rw [diagnoseEq]
  rw [validate_of_live documentEq isLive, publicationsFor_of_append (publications_send _ _)]
  simp only [publicationsFor, publications, sent, Outgoing.publication?, Option.toList_some]
  by_cases isOwn : uri = validated
  · simp [isOwn]
  · simp [isOwn, Ne.symm isOwn]

theorem fresh_validate (serves : session.Serves document) (files : FileTree) :
    (session.validate files document.uri).Fresh document := by
  have workspaceEq : (session.validate files document.uri).workspace =
      (session.diagnose files document).1.workspace := by
    rw [validate_of_live serves.isOpen serves.isLive, send]
  constructor
  · rw [workspaceEq]
    exact session.isLoaded_diagnose files document
  · rw [publicationsFor_validate serves.isOpen serves.isLive, if_pos rfl, List.getLast?_append,
      workspaceEq]
    exact ⟨_, rfl, session.diagnose_eq_shown files document⟩

theorem publicationsFor_validate_of_ne {uri validated : Uri} (different : uri ≠ validated)
    (files : FileTree) :
    (session.validate files validated).publicationsFor uri = session.publicationsFor uri := by
  rcases session.validate_cases files validated with ⟨unchanged, _⟩ | ⟨other, otherEq, isLive⟩
  · rw [unchanged]
  · rw [publicationsFor_validate otherEq isLive, if_neg different, List.append_nil]

theorem upholds_validate_of_ne {uri : Uri} (different : document.uri ≠ uri) (files : FileTree) :
    Upholds document session (session.validate files uri) := by
  refine .ofShowsAlike (publicationsFor_validate_of_ne different files) ?_
  rcases session.validate_cases files uri with ⟨unchanged, _⟩ | ⟨other, otherEq, isLive⟩
  · rw [unchanged]
    exact .refl session.workspace
  · rw [validate_of_live otherEq isLive, send]
    exact session.showsAlike_diagnose files other

theorem upholds_validate (serves : session.Serves document) (files : FileTree) (uri : Uri) :
    Upholds document session (session.validate files uri) := by
  by_cases isOwn : document.uri = uri
  · subst isOwn
    exact .inl (fresh_validate serves files)
  · exact upholds_validate_of_ne isOwn files

section Folds

variable {Item : Type} {act : Session → Item → Session}

theorem upholds_foldl (works : ∀ session item, Works parts session (act session item))
    (upholds : ∀ later item, Works parts session later → Upholds document later (act later item))
    (items : List Item) : Upholds document session (items.foldl act session) := by
  induction items generalizing session with
  | nil => exact .refl document session
  | cons item rest ih =>
      have later := ih fun later other work =>
        upholds later other ((works session item).trans work)
      exact (upholds session item (.refl session)).trans later

theorem fresh_foldl (works : ∀ session item, Works parts session (act session item))
    (upholds : ∀ later item, Works parts session later → Upholds document later (act later item))
    {items : List Item} {item : Item} (isItem : item ∈ items)
    (refreshes : ∀ later, Works parts session later → (act later item).Fresh document) :
    (items.foldl act session).Fresh document := by
  induction items generalizing session with
  | nil => simp at isItem
  | cons first rest ih =>
      have stillUpholds later other (work : Works parts (act session first) later) :=
        upholds later other ((works session first).trans work)
      rcases List.mem_cons.1 isItem with rfl | isLater
      · exact (upholds_foldl works stillUpholds rest).fresh (refreshes session (.refl session))
      · exact ih stillUpholds isLater fun later work =>
          refreshes later ((works session first).trans work)

end Folds

theorem upholds_revalidateProject (serves : session.Serves document) (files : FileTree)
    (uri : Uri) : Upholds document session (session.revalidateProject files uri) :=
  upholds_foldl (fun session other => session.validate_works files other)
    (fun _ other work => upholds_validate (work.serves serves) files other) _

theorem fresh_revalidateProject (serves : session.Serves document) {uri : Uri}
    (different : document.uri ≠ uri)
    (sameProject : Uri.project document.uri = Uri.project uri) (files : FileTree) :
    (session.revalidateProject files uri).Fresh document := by
  have isOther : document.uri ∈ session.documents.uris.filter fun other =>
      other != uri && Uri.project other == Uri.project uri :=
    List.mem_filter.2 ⟨serves.mem_uris, by simp [different, sameProject]⟩
  exact fresh_foldl (fun session other => session.validate_works files other)
    (fun _ other work => upholds_validate (work.serves serves) files other) isOther
    (fun _ work => fresh_validate (work.serves serves) files)

theorem fresh_revalidateAll (serves : session.Serves document) (files : FileTree) :
    (session.revalidateAll files).Fresh document := by
  have cancelled {later : Session} (serves : later.Serves document) (task : DelayedTask) :
      Serves { later with schedule := later.schedule.cancel task } document :=
    ⟨serves.isOpen, serves.isLive⟩
  have upholds (later : Session) (uri : Uri) (work : Works [.tasks] session later) :
      Upholds document later (later.validateNow files uri) := by
    have waits : Upholds document later
        { later with schedule := later.schedule.cancel ⟨uri, .validate⟩ } :=
      .ofShowsAlike rfl (.refl later.workspace)
    exact waits.trans (upholds_validate (cancelled (work.serves serves) _) files uri)
  exact fresh_foldl (fun session uri => session.validateNow_works files uri) upholds
    serves.mem_uris (fun _ work => fresh_validate (cancelled (work.serves serves) _) files)

theorem Fresh.send (fresh : session.Fresh document) {message : Outgoing}
    (noPublication : message.publication? = none) : (session.send message).Fresh document := by
  refine fresh.congr ?_ fresh.isLoaded rfl
  rw [publicationsFor, (Apart.send session noPublication).publications, publicationsFor]

theorem Refreshes.fresh {index : ProjectIndex} (refreshes : Refreshes index before after)
    (serves : before.Serves document) : after.Fresh document := by
  induction refreshes with
  | validated apart _ files => exact fresh_revalidateAll (apart.works.serves serves) files
  | again refreshes files _ => exact fresh_revalidateAll (refreshes.works.serves serves) files
  | sent _ noPublication fresh => exact fresh.send noPublication

end Session

end Gamebook
