import Gamebook.Server.Session

/-!
# The tables of a session

A session keeps its open documents, the state of their diagnostics, the tasks
that wait for their time, and what it has sent.  For each table it is said here
what an operation does to a look-up, so that nothing else has to open it.
-/

namespace Gamebook

/-! ## Pending tasks -/

namespace Schedule

variable {schedule : Schedule} {task other : DelayedTask}

theorem isPending_iff :
    schedule.isPending task = true ↔ ∃ item ∈ schedule.pending, item.task = task := by
  simp [isPending]

theorem isPending_schedule {now : Nat} :
    (schedule.schedule task now).isPending other = true ↔
      other = task ∨ schedule.isPending other = true := by
  simp only [isPending_iff, Schedule.schedule, List.mem_append, List.mem_filter,
    List.mem_singleton, bne_iff_ne]
  constructor
  · rintro ⟨item, ⟨isItem, _⟩ | rfl, rfl⟩
    · exact .inr ⟨item, isItem, rfl⟩
    · exact .inl rfl
  · rintro (rfl | ⟨item, isItem, rfl⟩)
    · exact ⟨_, .inr rfl, rfl⟩
    · by_cases isTask : item.task = task
      · exact ⟨_, .inr rfl, isTask.symm⟩
      · exact ⟨item, .inl ⟨isItem, isTask⟩, rfl⟩

theorem isPending_cancel :
    (schedule.cancel task).isPending other = true ↔
      schedule.isPending other = true ∧ other ≠ task := by
  simp only [isPending_iff, cancel, List.mem_filter, bne_iff_ne]
  constructor
  · rintro ⟨item, ⟨isItem, different⟩, rfl⟩
    exact ⟨⟨item, isItem, rfl⟩, different⟩
  · rintro ⟨⟨item, isItem, rfl⟩, different⟩
    exact ⟨item, ⟨isItem, different⟩, rfl⟩

theorem isPending_cancelDocument {uri : Uri} :
    (schedule.cancelDocument uri).isPending other = true ↔
      schedule.isPending other = true ∧ other.uri ≠ uri := by
  simp only [isPending_iff, cancelDocument, List.mem_filter, bne_iff_ne]
  constructor
  · rintro ⟨item, ⟨isItem, different⟩, rfl⟩
    exact ⟨⟨item, isItem, rfl⟩, different⟩
  · rintro ⟨⟨item, isItem, rfl⟩, different⟩
    exact ⟨item, ⟨isItem, different⟩, rfl⟩

/-- What is left when the due tasks are taken was pending before. -/
theorem isPending_of_takeDue {now : Nat}
    (isLeft : (schedule.takeDue now).1.isPending task = true) :
    schedule.isPending task = true := by
  obtain ⟨item, isItem, rfl⟩ := isPending_iff.1 isLeft
  exact isPending_iff.2 ⟨item, (List.mem_filter.1 isItem).1, rfl⟩

/-- A task that is pending is taken or left. -/
theorem takeDue_cases (now : Nat) (isPending : schedule.isPending task = true) :
    (schedule.takeDue now).1.isPending task = true ∨ task ∈ (schedule.takeDue now).2 := by
  obtain ⟨item, isItem, rfl⟩ := isPending_iff.1 isPending
  by_cases isDue : item.deadline ≤ now
  · right
    have isTaken : item ∈ (schedule.pending.filter (·.deadline ≤ now)).mergeSort
        Pending.before :=
      List.mem_mergeSort.2 (List.mem_filter.2 ⟨isItem, by simpa using isDue⟩)
    exact List.mem_map.2 ⟨item, isTaken, rfl⟩
  · left
    have isLate : now < item.deadline := by omega
    exact isPending_iff.2 ⟨item, List.mem_filter.2 ⟨isItem, by simpa using isLate⟩, rfl⟩

end Schedule

/-! ## States of diagnostics -/

namespace Lifecycle

variable {lifecycle : Lifecycle} {uri : Uri}

theorem state?_set_eq {other : Uri} {state : DiagnosticsState} :
    (lifecycle.set uri state).state? other =
      if other = uri then some state else lifecycle.state? other := by
  by_cases isOwn : other = uri
  · rw [if_pos isOwn, isOwn, state?_set]
  · rw [if_neg isOwn, state?_set_of_ne lifecycle state (Ne.symm isOwn)]

theorem isLive_iff :
    lifecycle.isLive uri = true ↔
      ∃ state, lifecycle.state? uri = some state ∧ state ≠ .disposed := by
  rw [isLive, Option.any_eq_true]
  simp

end Lifecycle

/-! ## Open documents -/

namespace OpenDocuments

variable {opened : OpenDocuments} {uri : Uri}

theorem contains_eq_isSome : opened.contains uri = (opened.get? uri).isSome := by
  rw [contains, get?, Std.TreeMap.contains_eq_isSome_getElem?]

theorem contains_iff :
    opened.contains uri = true ↔ ∃ document, opened.get? uri = some document := by
  rw [contains_eq_isSome, Option.isSome_iff_exists]

theorem contains_eq_false_iff : opened.contains uri = false ↔ opened.get? uri = none := by
  rw [contains_eq_isSome, Option.isSome_eq_false_iff, Option.isNone_iff_eq_none]

theorem mem_uris : uri ∈ opened.uris ↔ opened.contains uri = true := by
  rw [uris, Std.TreeMap.mem_keys, contains, Std.TreeMap.mem_iff_contains]

theorem get?_insert {document : Document} :
    (opened.insert document).get? uri =
      if uri = document.uri then some document else opened.get? uri := by
  simp only [get?, insert, Std.TreeMap.getElem?_insert, Std.LawfulEqCmp.compare_eq_iff_eq,
    eq_comm (a := document.uri)]

theorem get?_erase {other : Uri} :
    (opened.erase other).get? uri = if uri = other then none else opened.get? uri := by
  simp only [get?, erase, Std.TreeMap.getElem?_erase, Std.LawfulEqCmp.compare_eq_iff_eq,
    eq_comm (a := other)]

end OpenDocuments

/-! ## Publications -/

/-- The diagnostics that a message publishes. -/
def Outgoing.publication? : Outgoing → Option Publication
  | publish publication => some publication
  | _ => none

namespace Session

/-- Everything that has been published, the oldest first. -/
def publications (session : Session) : List Publication :=
  session.outbox.filterMap (·.publication?)

/-- What has been published for a document, the oldest first. -/
def publicationsFor (session : Session) (uri : Uri) : List Publication :=
  session.publications.filter (·.uri == uri)

theorem publications_send (session : Session) (message : Outgoing) :
    (session.send message).publications =
      session.publications ++ message.publication?.toList := by
  rw [publications, send, List.filterMap_append, publications]
  cases message <;> rfl

theorem publicationsFor_of_append {before after : Session} {sent : List Publication}
    (publicationsEq : after.publications = before.publications ++ sent) (uri : Uri) :
    after.publicationsFor uri =
      before.publicationsFor uri ++ sent.filter (·.uri == uri) := by
  rw [publicationsFor, publicationsEq, List.filter_append, publicationsFor]

end Session

end Gamebook
