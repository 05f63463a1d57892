import Gamebook.Proofs.DocumentTurns

/-!
# The life of a document

Whatever happens to a session, and in whatever order, its tables agree on every
document, and nothing but their removal is published of the diagnostics of a document
that is closed.  Both are shown of a single event and then of every history.
-/

namespace Gamebook

namespace Session

/-! ## Agreement -/

variable {session : Session}

theorem inOrder_pass (inOrder : ∀ uri, InOrder [] session uri) (moment : Moment) (uri : Uri) :
    InOrder [] (session.pass moment) uri := by
  have reacts := session.reacts_pass moment
  generalize session.pass moment = after at reacts ⊢
  cases reacts with
  | opened document =>
      refine ((inOrder_withOpened inOrder moment.files document uri).works
        (validate_works _ moment.files document.uri)).settle ?_
      -- the validation that is due is done at once
      intro isDue
      obtain ⟨rfl, _⟩ := DelayedTask.mk.inj (List.mem_singleton.1 isDue)
      exact settled_validate _ moment.files document.uri
  | @changed changed document version changes isOpen =>
      obtain rfl := (inOrder changed).filed document isOpen
      exact inOrder_withChanged inOrder moment.now
        (OpenDocuments.changed document version changes)
        (OpenDocuments.contains_iff.2 ⟨document, isOpen⟩) uri
  | closed closed =>
      exact (inOrder_withClosed inOrder moment.files closed uri).works
        (revalidateProject_works _ moment.files closed)
  | due =>
      exact ((inOrder_withTaken inOrder moment.now uri).works
        (runTasks_works _ moment.files _)).settle (settled_runTasks _ moment.files)
  | rested rests => exact (inOrder uri).works rests.works
  | refreshed refreshes => exact (inOrder uri).works refreshes.works
  | followed _ _ refreshes => exact (inOrder uri).works refreshes.works

theorem inOrder_start (workspace : Workspace) (uri : Uri) : InOrder [] (start workspace) uri := by
  refine .ofClosed rfl ?_ (.inl rfl)
  simp [start, Schedule.isPending]

theorem inOrder_passAll (inOrder : ∀ uri, InOrder [] session uri) (history : List Moment) :
    ∀ uri, InOrder [] (session.passAll history) uri := by
  induction history generalizing session with
  | nil => exact inOrder
  | cons moment rest ih => exact ih (inOrder_pass inOrder moment)

/-! ## Silence about closed documents -/

/-- A document is closed in the end, and all that was sent for it meanwhile took its
diagnostics away. -/
structure Quiet (uri : Uri) (before after : Session) : Prop where
  isClosed : after.documents.contains uri = false
  blank : ∃ sent, after.publicationsFor uri = before.publicationsFor uri ++ sent ∧
    ∀ publication ∈ sent, publication.diagnostics = [] ∧ publication.version = none

namespace Quiet

variable {parts : List Part} {uri : Uri} {before middle after : Session}

theorem ofSame (isClosed : after.documents.contains uri = false)
    (publications : after.publicationsFor uri = before.publicationsFor uri) :
    Quiet uri before after :=
  ⟨isClosed, [], by rw [publications, List.append_nil], by simp⟩

theorem trans (first : Quiet uri before middle) (second : Quiet uri middle after) :
    Quiet uri before after := by
  obtain ⟨firstSent, firstEq, firstBlank⟩ := first.blank
  obtain ⟨secondSent, secondEq, secondBlank⟩ := second.blank
  refine ⟨second.isClosed, firstSent ++ secondSent, ?_, ?_⟩
  · rw [secondEq, firstEq, List.append_assoc]
  · intro publication isSent
    exact (List.mem_append.1 isSent).elim (firstBlank publication) (secondBlank publication)

/-- Work publishes nothing for a document that is not open. -/
theorem works (quiet : Quiet uri before middle) (work : Works parts middle after) :
    Quiet uri before after := by
  obtain ⟨sent, publishedEq, versions, _⟩ := work.published
  have noneSent : sent.filter (·.uri == uri) = [] := by
    refine List.filter_eq_nil_iff.2 ?_
    intro publication isSent isOwn
    obtain ⟨document, documentEq, _⟩ := versions publication isSent
    rw [eq_of_beq isOwn, OpenDocuments.contains_eq_false_iff.1 quiet.isClosed] at documentEq
    simp at documentEq
  refine quiet.trans (ofSame (work.documents ▸ quiet.isClosed) ?_)
  rw [publicationsFor_of_append publishedEq, noneSent, List.append_nil]

end Quiet

theorem quiet_withClosed {closed uri : Uri}
    (isClosed : uri ≠ closed → session.documents.contains uri = false) (files : FileTree) :
    Quiet uri session (session.withClosed files closed) := by
  constructor
  · rw [OpenDocuments.contains_eq_false_iff, withClosed, send, OpenDocuments.get?_erase]
    split
    · rfl
    · rename_i isOther
      exact OpenDocuments.contains_eq_false_iff.1 (isClosed isOther)
  · refine ⟨_, session.publicationsFor_withClosed files closed uri, ?_⟩
    intro publication isSent
    split at isSent
    · obtain rfl := List.mem_singleton.1 isSent
      exact ⟨rfl, rfl⟩
    · simp at isSent

theorem quiet_of_closes (session : Session) {moment : Moment} {uri : Uri}
    (closes : moment.Closes uri) : Quiet uri session (session.pass moment) := by
  rw [session.pass_of_told closes, notify, closeDocument_eq]
  exact (quiet_withClosed (fun isOther => absurd rfl isOther) moment.files).works
    (revalidateProject_works _ moment.files uri)

theorem quiet_pass (inOrder : ∀ uri, InOrder [] session uri) {moment : Moment} {uri : Uri}
    (isClosed : session.documents.contains uri = false) (notOpened : ¬ moment.Opens uri) :
    Quiet uri session (session.pass moment) := by
  have absent := OpenDocuments.contains_eq_false_iff.1 isClosed
  have quiet : Quiet uri session session := .ofSame isClosed rfl
  have reacts := session.reacts_pass moment
  generalize session.pass moment = after at reacts ⊢
  cases reacts with
  | opened document told =>
      have isOther : uri ≠ document.uri := fun isOwn => notOpened ⟨document, told, isOwn.symm⟩
      have staysClosed :
          (session.withOpened moment.files document).documents.contains uri = false := by
        rw [OpenDocuments.contains_eq_false_iff, withOpened, OpenDocuments.get?_insert,
          if_neg isOther, absent]
      have opened : Quiet uri session (session.withOpened moment.files document) :=
        .ofSame staysClosed rfl
      exact opened.works (validate_works _ moment.files document.uri)
  | @changed changed document version changes isOpen =>
      -- the document that changed is open, and filed under its own URI
      obtain rfl := (inOrder changed).filed document isOpen
      have isOther : uri ≠ document.uri := by
        rintro rfl
        simp [absent] at isOpen
      refine .ofSame ?_ rfl
      rw [OpenDocuments.contains_eq_false_iff, withChanged, OpenDocuments.get?_insert]
      exact (if_neg isOther).trans absent
  | closed closed =>
      exact (quiet_withClosed (fun _ => isClosed) moment.files).works
        (revalidateProject_works _ moment.files closed)
  | due =>
      have taken : Quiet uri session (session.withTaken moment.now) := .ofSame isClosed rfl
      exact taken.works (runTasks_works _ moment.files _)
  | rested rests => exact quiet.works rests.works
  | refreshed refreshes => exact quiet.works refreshes.works
  | followed _ _ refreshes => exact quiet.works refreshes.works

theorem quiet_passAll (inOrder : ∀ uri, InOrder [] session uri) {history : List Moment} {uri : Uri}
    (isClosed : session.documents.contains uri = false)
    (notOpened : ∀ moment ∈ history, ¬ moment.Opens uri) :
    Quiet uri session (session.passAll history) := by
  induction history generalizing session with
  | nil => exact .ofSame isClosed rfl
  | cons moment rest ih =>
      have now := quiet_pass inOrder isClosed (notOpened moment List.mem_cons_self)
      have later := ih (inOrder_pass inOrder moment) now.isClosed
        (fun moment isLater => notOpened moment (List.mem_cons_of_mem _ isLater))
      exact now.trans later

/-! ## Every history -/

/-- Whatever has happened to a session, the tables agree: pending tasks are about open
documents; a document is open exactly when its diagnostics are out of date or up to
date, and disposed when it is known and not open; a validation is pending when they are
out of date; when they are up to date, the last ones published carry the version of the
document; and from a closing to the next opening diagnostics are only taken away. -/
theorem documents_followed (workspace : Workspace) (history : List Moment) :
    let session := (start workspace).passAll history
    (∀ task, session.schedule.isPending task = true →
      session.documents.contains task.uri = true) ∧
    (∀ uri,
      (session.documents.contains uri = true ↔
        session.lifecycle.state? uri = some .unvalidated ∨
          session.lifecycle.state? uri = some .validated) ∧
      (session.documents.contains uri = false → ∀ state,
        session.lifecycle.state? uri = some state → state = .disposed)) ∧
    (∀ uri, session.documents.contains uri = true →
      session.lifecycle.state? uri = some .unvalidated →
        session.schedule.isPending ⟨uri, .validate⟩ = true) ∧
    (∀ uri document, session.documents.get? uri = some document →
      session.lifecycle.state? uri = some .validated →
        ∃ publication, (session.publicationsFor uri).getLast? = some publication ∧
          publication.version = some document.version) ∧
    ∀ uri earlier closing later, history = earlier ++ closing :: later →
      closing.Closes uri → (∀ moment ∈ later, ¬ moment.Opens uri) →
        ∃ sent, session.publicationsFor uri =
            ((start workspace).passAll earlier).publicationsFor uri ++ sent ∧
          ∀ publication ∈ sent, publication.diagnostics = [] ∧ publication.version = none := by
  intro session
  have inOrder : ∀ uri, InOrder [] session uri :=
    inOrder_passAll (inOrder_start workspace) history
  refine ⟨?_, ?_, ?_, ?_, ?_⟩
  · exact fun task => (inOrder task.uri).pending_open task.kind
  · intro uri
    refine ⟨⟨(inOrder uri).open_state, ?_⟩, ?_⟩
    · intro isCurrent
      cases isOpen : session.documents.contains uri with
      | true => rfl
      | false =>
          rcases (inOrder uri).closed_state isOpen with stateEq | stateEq <;>
            simp [stateEq] at isCurrent
    · intro isClosed state stateEq
      rcases (inOrder uri).closed_state isClosed with unknown | disposed
      · simp [unknown] at stateEq
      · exact Option.some.inj (stateEq.symm.trans disposed)
  · intro uri isOpen unvalidated
    exact ((inOrder uri).unvalidated_due isOpen unvalidated).resolve_right (by simp)
  · exact fun uri => (inOrder uri).validated_published
  · rintro uri earlier closing later rfl closes notOpened
    have inOrderThen := inOrder_passAll (inOrder_start workspace) earlier
    have closed := ((start workspace).passAll earlier).quiet_of_closes closes
    have quiet := closed.trans
      (quiet_passAll (inOrder_pass inOrderThen closing) closed.isClosed notOpened)
    have sessionEq : session =
        (((start workspace).passAll earlier).pass closing).passAll later := by
      simp only [session, passAll, List.foldl_append, List.foldl_cons]
    rw [sessionEq]
    exact quiet.blank

/-- A document is opened, changed, and closed before it is validated again: the
validation was due, and only the removal of its diagnostics is published. -/
theorem documents_followed_to_closing :
    let uri := "file:///game/startup.txt"
    let notification (now : Nat) (method : String) (members : List (String × Json)) : Moment :=
      ⟨{}, now, .message (.notification method (.object members))⟩
    let opening := notification 0 "textDocument/didOpen"
      [("textDocument", .object
        [("uri", .string uri), ("languageId", .string languageId), ("version", .int 1),
          ("text", .string "")])]
    let changing := notification 10 "textDocument/didChange"
      [("textDocument", .object [("uri", .string uri), ("version", .int 2)]),
        ("contentChanges", .array [.object [("text", .string "Hi")]])]
    let closing := notification 20 "textDocument/didClose"
      [("textDocument", .object [("uri", .string uri)])]
    let late : Moment := ⟨{}, 520, .tick⟩
    let changed := (start {}).passAll [opening, changing]
    let session := (start {}).passAll [opening, changing, closing, late]
    (changed.lifecycle.state? uri = some .unvalidated ∧
      changed.schedule.isPending ⟨uri, .validate⟩ = true) ∧
    session.lifecycle.state? uri = some .disposed ∧
    (session.publicationsFor uri).map (·.version) = [some 1, none] ∧
    ∃ sent, session.publicationsFor uri = changed.publicationsFor uri ++ sent ∧
      ∀ publication ∈ sent, publication.diagnostics = [] ∧ publication.version = none := by
  intro uri notification opening changing closing late changed session
  have unvalidated : changed.lifecycle.state? uri = some .unvalidated := by decide +kernel
  have isOpen : changed.documents.contains uri = true := by decide +kernel
  have isPending := (documents_followed {} [opening, changing]).2.2.1 uri isOpen unvalidated
  have closes : closing.Closes uri := by
    simp only [Moment.Closes, closing, notification, uri]
    rfl
  have notOpened : ∀ moment ∈ [late], ¬ moment.Opens uri := by
    intro moment isLate
    obtain rfl := List.mem_singleton.1 isLate
    rintro ⟨document, told, _⟩
    simp [late, Moment.told?] at told
  exact ⟨⟨unvalidated, isPending⟩, by decide +kernel, by decide +kernel,
    (documents_followed {} [opening, changing, closing, late]).2.2.2.2 uri [opening, changing]
      closing [late] rfl closes notOpened⟩

end Session

end Gamebook
