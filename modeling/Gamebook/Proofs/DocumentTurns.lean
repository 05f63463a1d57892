import Gamebook.Proofs.SessionSteps

/-!
# Turns in the life of a document

What a session knows of a document stands in four tables: the open documents, the
pending tasks, the states of diagnostics, and the publications.  Here it is said
when the four agree on a document.

A turn of a document touches its own document only, and the work that follows disturbs
none, so that the agreement is shown for one document at a time.
-/

namespace Gamebook

namespace Session

/-! ## Agreement on one document -/

/-- The tables agree on a document, which may still be validated by one of the tasks `due`. -/
structure InOrder (due : List DelayedTask) (session : Session) (uri : Uri) : Prop where
  filed : ∀ document, session.documents.get? uri = some document → document.uri = uri
  pending_open : ∀ kind, session.schedule.isPending ⟨uri, kind⟩ = true →
    session.documents.contains uri = true
  open_state : session.documents.contains uri = true →
    session.lifecycle.state? uri = some .unvalidated ∨
      session.lifecycle.state? uri = some .validated
  closed_state : session.documents.contains uri = false →
    session.lifecycle.state? uri = none ∨ session.lifecycle.state? uri = some .disposed
  unvalidated_due : session.documents.contains uri = true →
    session.lifecycle.state? uri = some .unvalidated →
      session.schedule.isPending ⟨uri, .validate⟩ = true ∨ ⟨uri, .validate⟩ ∈ due
  validated_published : ∀ document, session.documents.get? uri = some document →
    session.lifecycle.state? uri = some .validated →
      ∃ publication, (session.publicationsFor uri).getLast? = some publication ∧
        publication.version = some document.version

namespace InOrder

variable {parts : List Part} {due : List DelayedTask} {before after : Session} {uri : Uri}

theorem ofUnvalidated {document : Document}
    (documentEq : after.documents.get? document.uri = some document)
    (unvalidated : after.lifecycle.state? document.uri = some .unvalidated)
    (isDue : after.schedule.isPending ⟨document.uri, .validate⟩ = true ∨
      ⟨document.uri, .validate⟩ ∈ due) : InOrder due after document.uri := by
  have isOpen := OpenDocuments.contains_iff.2 ⟨document, documentEq⟩
  constructor
  · intro other otherEq
    rw [documentEq] at otherEq
    rw [Option.some.inj otherEq]
  · exact fun _ _ => isOpen
  · exact fun _ => .inl unvalidated
  · simp [isOpen]
  · exact fun _ _ => isDue
  · simp [unvalidated]

theorem ofClosed (absent : after.documents.get? uri = none)
    (notPending : ∀ kind, ¬ after.schedule.isPending ⟨uri, kind⟩ = true)
    (state : after.lifecycle.state? uri = none ∨
      after.lifecycle.state? uri = some .disposed) : InOrder due after uri := by
  have isClosed := OpenDocuments.contains_eq_false_iff.2 absent
  constructor
  · simp [absent]
  · exact fun kind isPending => absurd isPending (notPending kind)
  · simp [isClosed]
  · exact fun _ => state
  · simp [isClosed]
  · simp [absent]

/-- Only what the tables say of the document itself matters. -/
theorem congr (inOrder : InOrder due before uri)
    (documents : after.documents.get? uri = before.documents.get? uri)
    (pending : ∀ kind, after.schedule.isPending ⟨uri, kind⟩ = true ↔
      before.schedule.isPending ⟨uri, kind⟩ = true)
    (state : after.lifecycle.state? uri = before.lifecycle.state? uri)
    (published : after.publicationsFor uri = before.publicationsFor uri) :
    InOrder due after uri := by
  have contains : after.documents.contains uri = before.documents.contains uri := by
    rw [OpenDocuments.contains_eq_isSome, OpenDocuments.contains_eq_isSome, documents]
  constructor
  · rw [documents]
    exact inOrder.filed
  · simp only [contains, pending]
    exact inOrder.pending_open
  · rw [contains, state]
    exact inOrder.open_state
  · rw [contains, state]
    exact inOrder.closed_state
  · rw [contains, state, pending]
    exact inOrder.unvalidated_due
  · rw [documents, state, published]
    exact inOrder.validated_published

theorem works (inOrder : InOrder due before uri) (work : Works parts before after) :
    InOrder due after uri := by
  constructor
  · rw [work.documents]
    exact inOrder.filed
  · intro kind isPending
    rw [work.documents]
    exact inOrder.pending_open kind (work.pending _ isPending)
  · intro isOpen
    rcases work.state uri with stateEq | ⟨_, _, validated⟩
    · rw [stateEq]
      exact inOrder.open_state (work.documents ▸ isOpen)
    · exact .inr validated
  · intro isClosed
    rw [work.documents] at isClosed
    rcases work.state uri with stateEq | ⟨isOpen, _, _⟩
    · rw [stateEq]
      exact inOrder.closed_state isClosed
    · simp [isClosed] at isOpen
  · intro isOpen unvalidated
    rcases work.state uri with stateEq | ⟨_, _, validated⟩
    · rcases inOrder.unvalidated_due (work.documents ▸ isOpen) (stateEq ▸ unvalidated) with
        wasPending | isDue
      · rcases work.dropped _ wasPending with isPending | ⟨_, settled⟩
        · exact .inl isPending
        · exact absurd unvalidated (settled.state?_ne_unvalidated isOpen)
      · exact .inr isDue
    · simp [validated] at unvalidated
  · intro document documentEq validated
    rw [work.documents] at documentEq
    obtain ⟨sent, publishedEq, versions, changes⟩ := work.published
    rw [publicationsFor_of_append publishedEq, List.getLast?_append]
    cases lastEq : (sent.filter (·.uri == uri)).getLast? with
    | some publication =>
        obtain ⟨isSent, isOwn⟩ := List.mem_filter.1 (List.mem_of_getLast? lastEq)
        obtain ⟨other, otherEq, versionEq⟩ := versions publication isSent
        rw [eq_of_beq isOwn, documentEq] at otherEq
        obtain rfl := Option.some.inj otherEq
        exact ⟨publication, rfl, versionEq⟩
    | none =>
        by_cases unchanged : after.lifecycle.state? uri = before.lifecycle.state? uri
        · exact inOrder.validated_published document documentEq (unchanged ▸ validated)
        · -- a validation would have sent something
          obtain ⟨publication, isSent, isOwn⟩ := changes uri unchanged
          have isOwnSent : publication ∈ sent.filter (·.uri == uri) :=
            List.mem_filter.2 ⟨isSent, by simpa using isOwn⟩
          rw [List.getLast?_eq_none_iff.1 lastEq] at isOwnSent
          simp at isOwnSent

theorem weaken (inOrder : InOrder [] before uri) (due : List DelayedTask) :
    InOrder due before uri :=
  { inOrder with
    unvalidated_due := fun isOpen unvalidated =>
      (inOrder.unvalidated_due isOpen unvalidated).imp_right (by simp) }

/-- Nothing is left to the tasks once the documents that they are about are settled. -/
theorem settle (inOrder : InOrder due after uri)
    (settled : ⟨uri, .validate⟩ ∈ due → after.Settled uri) : InOrder [] after uri where
  filed := inOrder.filed
  pending_open := inOrder.pending_open
  open_state := inOrder.open_state
  closed_state := inOrder.closed_state
  unvalidated_due := by
    intro isOpen unvalidated
    rcases inOrder.unvalidated_due isOpen unvalidated with isPending | isDue
    · exact .inl isPending
    · exact absurd unvalidated ((settled isDue).state?_ne_unvalidated isOpen)
  validated_published := inOrder.validated_published

end InOrder

/-! ## The turns keep the agreement -/

variable {session : Session}

theorem inOrder_withOpened (inOrder : ∀ uri, InOrder [] session uri) (files : FileTree)
    (document : Document) (uri : Uri) :
    InOrder [⟨document.uri, .validate⟩] (session.withOpened files document) uri := by
  by_cases isOwn : uri = document.uri
  · rw [isOwn]
    refine .ofUnvalidated ?_ ?_ (.inr (List.mem_singleton_self _))
    · rw [withOpened, OpenDocuments.get?_insert, if_pos rfl]
    · rw [withOpened, Lifecycle.opened, Lifecycle.state?_set]
  · refine ((inOrder uri).weaken _).congr ?_ (fun _ => Iff.rfl) ?_ rfl
    · rw [withOpened, OpenDocuments.get?_insert, if_neg isOwn]
    · rw [withOpened, Lifecycle.opened, Lifecycle.state?_set_eq, if_neg isOwn]

theorem inOrder_withChanged (inOrder : ∀ uri, InOrder [] session uri) (now : Nat)
    (document : Document) (wasOpen : session.documents.contains document.uri = true)
    (uri : Uri) : InOrder [] (session.withChanged now document.uri document) uri := by
  have pending (task : DelayedTask) :
      (session.withChanged now document.uri document).schedule.isPending task = true ↔
        task = ⟨document.uri, .index⟩ ∨ task = ⟨document.uri, .validate⟩ ∨
          session.schedule.isPending task = true := by
    rw [withChanged, Schedule.isPending_schedule, Schedule.isPending_schedule]
  have isLive : session.lifecycle.isLive document.uri = true := by
    rcases (inOrder document.uri).open_state wasOpen with stateEq | stateEq <;>
      exact Lifecycle.isLive_iff.2 ⟨_, stateEq, by simp⟩
  have stateEq (other : Uri) :
      (session.withChanged now document.uri document).lifecycle.state? other =
        if other = document.uri then some .unvalidated else session.lifecycle.state? other := by
    rw [withChanged, Lifecycle.changed, if_pos isLive, Lifecycle.state?_set_eq]
  by_cases isOwn : uri = document.uri
  · rw [isOwn]
    refine .ofUnvalidated ?_ ?_ (.inl ((pending _).2 (.inr (.inl rfl))))
    · rw [withChanged, OpenDocuments.get?_insert, if_pos rfl]
    · rw [stateEq, if_pos rfl]
  · refine (inOrder uri).congr ?_ ?_ ?_ rfl
    · rw [withChanged, OpenDocuments.get?_insert, if_neg isOwn]
    · intro kind
      rw [pending]
      simp [isOwn]
    · rw [stateEq, if_neg isOwn]

theorem publicationsFor_withClosed (session : Session) (files : FileTree) (closed uri : Uri) :
    (session.withClosed files closed).publicationsFor uri =
      session.publicationsFor uri ++ if uri = closed then [⟨closed, [], none⟩] else [] := by
  rw [withClosed, publicationsFor_of_append (publications_send _ _)]
  by_cases isOwn : uri = closed
  · rw [if_pos isOwn, isOwn]
    simp [Outgoing.publication?, publicationsFor, publications, withIndex]
  · rw [if_neg isOwn]
    simp [Outgoing.publication?, publicationsFor, publications, withIndex, Ne.symm isOwn]

theorem inOrder_withClosed (inOrder : ∀ uri, InOrder [] session uri) (files : FileTree)
    (closed uri : Uri) : InOrder [] (session.withClosed files closed) uri := by
  by_cases isOwn : uri = closed
  · subst isOwn
    refine .ofClosed ?_ ?_ (.inr ?_)
    · rw [withClosed, send, OpenDocuments.get?_erase, if_pos rfl]
    · intro kind
      rw [withClosed, send, Schedule.isPending_cancelDocument]
      exact fun isPending => isPending.2 rfl
    · rw [withClosed, send, Lifecycle.disposed, Lifecycle.state?_set]
  · refine (inOrder uri).congr ?_ ?_ ?_ ?_
    · rw [withClosed, send, OpenDocuments.get?_erase, if_neg isOwn]
    · intro kind
      rw [withClosed, send, Schedule.isPending_cancelDocument]
      exact and_iff_left isOwn
    · rw [withClosed, send, Lifecycle.disposed, Lifecycle.state?_set_eq, if_neg isOwn]
    · rw [publicationsFor_withClosed, if_neg isOwn, List.append_nil]

theorem inOrder_withTaken (inOrder : ∀ uri, InOrder [] session uri) (now : Nat) (uri : Uri) :
    InOrder (session.schedule.takeDue now).2 (session.withTaken now) uri where
  filed := (inOrder uri).filed
  pending_open := fun kind isPending =>
    (inOrder uri).pending_open kind (Schedule.isPending_of_takeDue isPending)
  open_state := (inOrder uri).open_state
  closed_state := (inOrder uri).closed_state
  unvalidated_due := by
    intro isOpen unvalidated
    rcases (inOrder uri).unvalidated_due isOpen unvalidated with isPending | isDue
    · exact Schedule.takeDue_cases now isPending
    · simp at isDue
  validated_published := (inOrder uri).validated_published

end Session

end Gamebook
