import Mathlib.Data.List.Induction
import Mathlib.Data.List.Nodup
import Mathlib.Data.String.Basic
import Gamebook.Server.Schedule

/-!
# What a schedule remembers

A schedule is changed by scheduling tasks, by cancelling them, one or all of a document,
and by taking those that are due.  Whatever the calls were and whatever instants they
name, a task waits when it has been scheduled and nothing has ended the wait since, and
it is due at its delay after the last time it was scheduled.  So the tasks that are taken
are read off the calls, and of a burst of changes comes one run.
-/

namespace Gamebook

/-- A call that changes a schedule. -/
inductive ScheduleCall where
  | schedule (task : DelayedTask) (now : Nat)
  | cancel (task : DelayedTask)
  | cancelDocument (uri : Uri)
  | takeDue (now : Nat)
deriving DecidableEq

namespace ScheduleCall

/-- Whether the call ends the wait of a task that is due at `deadline`: it schedules the
task anew, cancels it or takes it. -/
def Ends (task : DelayedTask) (deadline : Nat) : ScheduleCall → Prop
  | schedule other _ => other = task
  | cancel other => other = task
  | cancelDocument uri => uri = task.uri
  | takeDue now => deadline ≤ now

/-- The instant that the call names. -/
def instant? : ScheduleCall → Option Nat
  | schedule _ now | takeDue now => some now
  | cancel _ | cancelDocument _ => none

/-- The instant at which the call schedules a task. -/
def scheduled? (task : DelayedTask) : ScheduleCall → Option Nat
  | schedule other now => if other = task then some now else none
  | _ => none

end ScheduleCall

/-- The task was last scheduled at `time`, and since then it was neither cancelled nor
taken. -/
def Waits (calls : List ScheduleCall) (task : DelayedTask) (time : Nat) : Prop :=
  ∃ earlier later, calls = earlier ++ .schedule task time :: later ∧
    ∀ call ∈ later, ¬ call.Ends task (time + task.kind.delay)

/-- An item of a list with one more at its end, with a beginning of some kind before it and
allowed items behind it, is the one at the end, or the one at the end is allowed. -/
theorem exists_split_concat_of {Item : Type} {items : List Item} {last item : Item}
    {begins : List Item → Prop} {allowed : Item → Prop} :
    (∃ earlier later, items ++ [last] = earlier ++ item :: later ∧ begins earlier ∧
      ∀ other ∈ later, allowed other) ↔
      (last = item ∧ begins items) ∨ allowed last ∧
        ∃ earlier later, items = earlier ++ item :: later ∧ begins earlier ∧
          ∀ other ∈ later, allowed other := by
  constructor
  · rintro ⟨earlier, later, itemsEq, isBegin, laterAllowed⟩
    rcases List.eq_nil_or_concat later with rfl | ⟨middle, final, rfl⟩
    · obtain ⟨rfl, lastEq⟩ := List.append_inj' itemsEq rfl
      exact .inl ⟨(List.cons.inj lastEq).1, isBegin⟩
    · rw [List.concat_eq_append, ← List.cons_append, ← List.append_assoc] at itemsEq
      obtain ⟨rfl, lastEq⟩ := List.append_inj' itemsEq rfl
      obtain rfl := (List.cons.inj lastEq).1
      rw [List.concat_eq_append, List.forall_mem_append, List.forall_mem_singleton]
        at laterAllowed
      exact .inr ⟨laterAllowed.2, earlier, middle, rfl, isBegin, laterAllowed.1⟩
  · rintro (⟨rfl, isBegin⟩ | ⟨lastAllowed, earlier, later, rfl, isBegin, laterAllowed⟩)
    · exact ⟨items, [], rfl, isBegin, by simp⟩
    · refine ⟨earlier, later ++ [last], by simp, isBegin, ?_⟩
      rw [List.forall_mem_append, List.forall_mem_singleton]
      exact ⟨laterAllowed, lastAllowed⟩

theorem exists_split_concat {Item : Type} {items : List Item} {last item : Item}
    {allowed : Item → Prop} :
    (∃ earlier later, items ++ [last] = earlier ++ item :: later ∧
      ∀ other ∈ later, allowed other) ↔
      last = item ∨ allowed last ∧
        ∃ earlier later, items = earlier ++ item :: later ∧ ∀ other ∈ later, allowed other := by
  simpa using @exists_split_concat_of Item items last item (fun _ => True) allowed

/-! ## The order of tasks -/

/-- The order in which tasks run: by deadline, by URI, and validation before indexing. -/
def Pending.Precedes (first second : Pending) : Prop :=
  first.deadline < second.deadline ∨ first.deadline = second.deadline ∧
    (first.task.uri < second.task.uri ∨ first.task.uri = second.task.uri ∧
      first.task.kind = .validate ∧ second.task.kind = .index)

namespace Pending

theorem before_iff {first second : Pending} :
    first.before second = true ↔ first = second ∨ first.Precedes second := by
  obtain ⟨⟨firstUri, firstKind⟩, firstDeadline⟩ := first
  obtain ⟨⟨secondUri, secondKind⟩, secondDeadline⟩ := second
  by_cases sameDeadline : firstDeadline = secondDeadline
  · by_cases sameUri : firstUri = secondUri
    · cases firstKind <;> cases secondKind <;>
        simp [before, Precedes, sameDeadline, sameUri, TaskKind.rank]
    · simp [before, Precedes, sameDeadline, sameUri]
  · simp [before, Precedes, sameDeadline]

theorem Precedes.trans {first second third : Pending} (early : first.Precedes second)
    (late : second.Precedes third) : first.Precedes third := by
  rcases early with earlyDeadline | ⟨earlyDeadline, early⟩ <;>
    rcases late with lateDeadline | ⟨lateDeadline, late⟩
  · exact .inl (by omega)
  · exact .inl (by omega)
  · exact .inl (by omega)
  · refine .inr ⟨by omega, ?_⟩
    rcases early with earlyUri | ⟨earlyUri, earlyKind⟩ <;>
      rcases late with lateUri | ⟨lateUri, lateKind⟩
    · exact .inl (String.lt_trans earlyUri lateUri)
    · exact .inl (lateUri ▸ earlyUri)
    · exact .inl (earlyUri ▸ lateUri)
    · exact absurd (earlyKind.2.symm.trans lateKind.1) (by simp)

theorem precedes_or_eq_or_precedes (first second : Pending) :
    first.Precedes second ∨ first = second ∨ second.Precedes first := by
  obtain ⟨⟨firstUri, firstKind⟩, firstDeadline⟩ := first
  obtain ⟨⟨secondUri, secondKind⟩, secondDeadline⟩ := second
  rcases Nat.lt_trichotomy firstDeadline secondDeadline with isLess | rfl | isMore
  · exact .inl (.inl isLess)
  · by_cases isLess : firstUri < secondUri
    · exact .inl (.inr ⟨rfl, .inl isLess⟩)
    · by_cases isMore : secondUri < firstUri
      · exact .inr (.inr (.inr ⟨rfl, .inl isMore⟩))
      · obtain rfl : firstUri = secondUri := String.le_antisymm isMore isLess
        cases firstKind <;> cases secondKind <;> simp [Precedes]
  · exact .inr (.inr (.inl isMore))

theorem pairwise_mergeSort_before (items : List Pending) (distinct : items.Nodup) :
    (items.mergeSort before).Pairwise Precedes := by
  have sorted := @List.pairwise_mergeSort Pending before
    (by
      intro first second third early late
      rw [before_iff] at early late ⊢
      rcases early with rfl | early
      · exact late
      · rcases late with rfl | late
        · exact .inr early
        · exact .inr (early.trans late))
    (by
      intro first second
      rw [Bool.or_eq_true, before_iff, before_iff]
      rcases precedes_or_eq_or_precedes first second with early | same | late
      · exact .inl (.inr early)
      · exact .inl (.inl same)
      · exact .inr (.inr late))
    items
  have sortedDistinct : (items.mergeSort before).Nodup :=
    (List.mergeSort_perm items before).nodup_iff.2 distinct
  refine (sorted.and sortedDistinct).imp ?_
  rintro first second ⟨isBefore, different⟩
  exact (before_iff.1 isBefore).resolve_left different

end Pending

/-! ## Calls and pending tasks -/

namespace Schedule

variable {schedule : Schedule} {task : DelayedTask} {deadline now : Nat} {call : ScheduleCall}

/-- When a task is due. -/
def deadline? (schedule : Schedule) (task : DelayedTask) : Option Nat :=
  (schedule.pending.find? (·.task == task)).map (·.deadline)

def apply (schedule : Schedule) : ScheduleCall → Schedule
  | .schedule task now => schedule.schedule task now
  | .cancel task => schedule.cancel task
  | .cancelDocument uri => schedule.cancelDocument uri
  | .takeDue now => (schedule.takeDue now).1

/-- The schedule after calls, from an empty one on. -/
def afterCalls (calls : List ScheduleCall) : Schedule :=
  calls.foldl apply {}

/-- What a call does to the wait of one task: it begins one, or leaves it unless it ends
it. -/
theorem mem_pending_apply :
    ⟨task, deadline⟩ ∈ (schedule.apply call).pending ↔
      (∃ time, call = .schedule task time ∧ deadline = time + task.kind.delay) ∨
        ¬ call.Ends task deadline ∧ ⟨task, deadline⟩ ∈ schedule.pending := by
  cases call with
  | schedule other time =>
      simp only [apply, Schedule.schedule, List.mem_append, List.mem_filter, List.mem_singleton,
        bne_iff_ne, Pending.mk.injEq, ScheduleCall.Ends, ScheduleCall.schedule.injEq]
      constructor
      · rintro (⟨isPending, different⟩ | ⟨rfl, rfl⟩)
        · exact .inr ⟨Ne.symm different, isPending⟩
        · exact .inl ⟨time, ⟨rfl, rfl⟩, rfl⟩
      · rintro (⟨_, ⟨rfl, rfl⟩, rfl⟩ | ⟨different, isPending⟩)
        · exact .inr ⟨rfl, rfl⟩
        · exact .inl ⟨isPending, Ne.symm different⟩
  | cancel other =>
      simp [apply, cancel, ScheduleCall.Ends, and_comm, eq_comm (a := other)]
  | cancelDocument uri =>
      simp [apply, cancelDocument, ScheduleCall.Ends, and_comm, eq_comm (a := uri)]
  | takeDue time => simp [apply, takeDue, ScheduleCall.Ends, and_comm]

/-- A task is pending after calls when it waits, its delay after it was scheduled. -/
theorem mem_pending_afterCalls {calls : List ScheduleCall} :
    ⟨task, deadline⟩ ∈ (afterCalls calls).pending ↔
      ∃ time, Waits calls task time ∧ deadline = time + task.kind.delay := by
  induction calls using List.reverseRecOn with
  | nil => simp [afterCalls, Waits]
  | append_singleton calls call ih =>
      rw [afterCalls, List.foldl_append, List.foldl_cons, List.foldl_nil, ← afterCalls,
        mem_pending_apply, ih]
      simp only [Waits, exists_split_concat]
      constructor
      · rintro (⟨time, rfl, rfl⟩ | ⟨goesOn, time, waits, rfl⟩)
        · exact ⟨time, .inl rfl, rfl⟩
        · exact ⟨time, .inr ⟨goesOn, waits⟩, rfl⟩
      · rintro ⟨time, rfl | ⟨goesOn, waits⟩, rfl⟩
        · exact .inl ⟨time, rfl, rfl⟩
        · exact .inr ⟨goesOn, time, waits, rfl⟩

/-- No task is pending twice. -/
def Distinct (schedule : Schedule) : Prop :=
  (schedule.pending.map (·.task)).Nodup

theorem Distinct.apply (distinct : schedule.Distinct) (call : ScheduleCall) :
    (schedule.apply call).Distinct := by
  have filtered (keep : Pending → Bool) : ((schedule.pending.filter keep).map (·.task)).Nodup :=
    distinct.sublist (List.filter_sublist.map _)
  cases call with
  | schedule task now =>
      rw [Distinct, Schedule.apply, Schedule.schedule, List.map_append]
      refine List.nodup_append.2 ⟨filtered _, by simp, ?_⟩
      rintro other isOther _ isTask rfl
      obtain ⟨item, isItem, rfl⟩ := List.mem_map.1 isOther
      have different := (List.mem_filter.1 isItem).2
      simp at isTask
      simp [isTask] at different
  | cancel _ | cancelDocument _ | takeDue _ => exact filtered _

theorem distinct_afterCalls (calls : List ScheduleCall) : (afterCalls calls).Distinct := by
  induction calls using List.reverseRecOn with
  | nil => exact List.nodup_nil
  | append_singleton calls call ih =>
      rw [afterCalls, List.foldl_append]
      exact ih.apply call

theorem Distinct.deadline_eq (distinct : schedule.Distinct) {other : Nat}
    (isPending : ⟨task, deadline⟩ ∈ schedule.pending)
    (alsoPending : ⟨task, other⟩ ∈ schedule.pending) : deadline = other :=
  congrArg Pending.deadline (List.inj_on_of_nodup_map distinct isPending alsoPending rfl)

theorem Distinct.deadline?_eq_some_iff (distinct : schedule.Distinct) :
    schedule.deadline? task = some deadline ↔ ⟨task, deadline⟩ ∈ schedule.pending := by
  rw [deadline?, Option.map_eq_some_iff]
  constructor
  · rintro ⟨item, found, rfl⟩
    have taskEq : item.task = task := by simpa using List.find?_some found
    exact taskEq ▸ List.mem_of_find?_eq_some found
  · intro isPending
    have isFound : (schedule.pending.find? (·.task == task)).isSome = true :=
      List.find?_isSome.2 ⟨_, isPending, by simp⟩
    obtain ⟨item, found⟩ := Option.isSome_iff_exists.1 isFound
    have taskEq : item.task = task := by simpa using List.find?_some found
    have alsoPending : ⟨task, item.deadline⟩ ∈ schedule.pending :=
      taskEq ▸ List.mem_of_find?_eq_some found
    exact ⟨item, found, distinct.deadline_eq alsoPending isPending⟩

/-! ## Taking what is due -/

theorem mem_takeDue :
    task ∈ (schedule.takeDue now).2 ↔
      ∃ deadline, ⟨task, deadline⟩ ∈ schedule.pending ∧ deadline ≤ now := by
  simp only [takeDue, List.mem_map, List.mem_mergeSort, List.mem_filter, decide_eq_true_eq]
  constructor
  · rintro ⟨item, ⟨isPending, isDue⟩, rfl⟩
    exact ⟨item.deadline, isPending, isDue⟩
  · rintro ⟨deadline, isPending, isDue⟩
    exact ⟨⟨task, deadline⟩, ⟨isPending, isDue⟩, rfl⟩

theorem Distinct.nodup_takeDue (distinct : schedule.Distinct) (now : Nat) :
    (schedule.takeDue now).2.Nodup := by
  have sorted := (List.mergeSort_perm (schedule.pending.filter (·.deadline ≤ now))
    Pending.before).map (·.task)
  exact sorted.nodup_iff.2 (distinct.sublist (List.filter_sublist.map _))

theorem Distinct.takeDue_inOrder (distinct : schedule.Distinct) (now : Nat) :
    ∃ items : List Pending, items.map (·.task) = (schedule.takeDue now).2 ∧
      items.Pairwise Pending.Precedes ∧
      ∀ item ∈ items, schedule.deadline? item.task = some item.deadline := by
  refine ⟨_, rfl, ?_, ?_⟩
  · exact Pending.pairwise_mergeSort_before _ (List.Nodup.of_map _ distinct |>.filter _)
  · intro item isItem
    exact distinct.deadline?_eq_some_iff.2 (List.mem_filter.1 (List.mem_mergeSort.1 isItem)).1

theorem Distinct.deadline?_takeDue (distinct : schedule.Distinct) (now : Nat)
    (task : DelayedTask) :
    (schedule.takeDue now).1.deadline? task =
      if task ∈ (schedule.takeDue now).2 then none else schedule.deadline? task := by
  apply Option.ext
  intro deadline
  have leftDistinct : (schedule.takeDue now).1.Distinct := distinct.apply (.takeDue now)
  have isLeft : ⟨task, deadline⟩ ∈ (schedule.takeDue now).1.pending ↔
      ¬ deadline ≤ now ∧ ⟨task, deadline⟩ ∈ schedule.pending := by
    rw [← Schedule.apply, mem_pending_apply]
    simp [ScheduleCall.Ends]
  rw [leftDistinct.deadline?_eq_some_iff, isLeft]
  split
  · rename_i isTaken
    obtain ⟨other, isPending, isDue⟩ := mem_takeDue.1 isTaken
    refine iff_of_false ?_ (by simp)
    rintro ⟨notDue, alsoPending⟩
    exact notDue (distinct.deadline_eq isPending alsoPending ▸ isDue)
  · rename_i notTaken
    rw [distinct.deadline?_eq_some_iff, and_iff_right_iff_imp]
    intro isPending isDue
    exact notTaken (mem_takeDue.2 ⟨deadline, isPending, isDue⟩)

theorem Distinct.nextDeadline?_eq_some_iff (distinct : schedule.Distinct) :
    schedule.nextDeadline? = some deadline ↔
      (∃ task, schedule.deadline? task = some deadline) ∧
        ∀ task other, schedule.deadline? task = some other → deadline ≤ other := by
  simp only [nextDeadline?, List.min?_eq_some_iff, List.mem_map, distinct.deadline?_eq_some_iff]
  constructor
  · rintro ⟨⟨item, isPending, rfl⟩, least⟩
    exact ⟨⟨item.task, isPending⟩, fun task other alsoPending =>
      least other ⟨_, alsoPending, rfl⟩⟩
  · rintro ⟨⟨task, isPending⟩, least⟩
    refine ⟨⟨_, isPending, rfl⟩, ?_⟩
    rintro _ ⟨item, alsoPending, rfl⟩
    exact least item.task item.deadline alsoPending

/-! ## Bursts of changes -/

/-- The tasks that a call takes. -/
def taken (schedule : Schedule) : ScheduleCall → List DelayedTask
  | .takeDue now => (schedule.takeDue now).2
  | _ => []

/-- The tasks that run while calls are made, in order. -/
def runs (schedule : Schedule) : List ScheduleCall → List DelayedTask
  | [] => []
  | call :: rest => schedule.taken call ++ (schedule.apply call).runs rest

theorem runs_schedule (now : Nat) (calls : List ScheduleCall) :
    schedule.runs (.schedule task now :: calls) =
      (schedule.apply (.schedule task now)).runs calls := rfl

theorem mem_taken :
    task ∈ schedule.taken call ↔
      ∃ now deadline, call = .takeDue now ∧ ⟨task, deadline⟩ ∈ schedule.pending ∧
        deadline ≤ now := by
  cases call with
  | takeDue now => simp [taken, mem_takeDue]
  | schedule _ _ | cancel _ | cancelDocument _ => simp [taken]

end Schedule

namespace ScheduleCall

variable {task : DelayedTask}

theorem scheduled?_eq_some_iff {call : ScheduleCall} {time : Nat} :
    call.scheduled? task = some time ↔ call = .schedule task time := by
  cases call with
  | schedule other now => simp [scheduled?]
  | cancel _ | cancelDocument _ | takeDue _ => simp [scheduled?]

/-- The instants at which calls schedule a task. -/
def changes (task : DelayedTask) (calls : List ScheduleCall) : List Nat :=
  calls.filterMap (·.scheduled? task)

@[simp]
theorem changes_schedule (task : DelayedTask) (time : Nat) (calls : List ScheduleCall) :
    changes task (.schedule task time :: calls) = time :: changes task calls := by
  simp [changes, scheduled?]

theorem changes_of_none {call : ScheduleCall} (isOther : call.scheduled? task = none)
    (calls : List ScheduleCall) : changes task (call :: calls) = changes task calls := by
  simp [changes, isOther]

/-- Calls in the order of their instants that never cancel a task and schedule it again
only while its delay since the last time is not over. -/
structure Burst (task : DelayedTask) (calls : List ScheduleCall) : Prop where
  inOrder : (calls.filterMap (·.instant?)).Pairwise (· ≤ ·)
  close : (changes task calls).IsChain fun earlier later => later < earlier + task.kind.delay
  notCancelled : .cancel task ∉ calls
  notClosed : .cancelDocument task.uri ∉ calls

namespace Burst

variable {calls : List ScheduleCall} {first call : ScheduleCall}

theorem tail (burst : Burst task (first :: calls)) : Burst task calls where
  inOrder := burst.inOrder.sublist ((List.sublist_cons_self first calls).filterMap _)
  close := by
    have close := burst.close
    rw [changes, List.filterMap_cons] at close
    split at close
    · exact close
    · exact close.of_cons
  notCancelled isCall := burst.notCancelled (List.mem_cons_of_mem _ isCall)
  notClosed isCall := burst.notClosed (List.mem_cons_of_mem _ isCall)

/-- A call that does not schedule the task may be left out. -/
theorem skip (burst : Burst task (first :: call :: calls)) (isOther : call.scheduled? task = none) :
    Burst task (first :: calls) where
  inOrder :=
    burst.inOrder.sublist (((List.sublist_cons_self call calls).cons_cons first).filterMap _)
  close := by
    have changesEq : changes task (first :: call :: calls) = changes task (first :: calls) := by
      simp only [changes, List.filterMap_cons, isOther]
    exact changesEq ▸ burst.close
  notCancelled isCall := burst.notCancelled (by
    rcases List.mem_cons.1 isCall with isFirst | isLater
    · exact isFirst ▸ List.mem_cons_self
    · exact List.mem_cons_of_mem _ (List.mem_cons_of_mem _ isLater))
  notClosed isCall := burst.notClosed (by
    rcases List.mem_cons.1 isCall with isFirst | isLater
    · exact isFirst ▸ List.mem_cons_self
    · exact List.mem_cons_of_mem _ (List.mem_cons_of_mem _ isLater))

/-- The task is not scheduled behind an instant at which it is due. -/
theorem changes_eq_nil {time now : Nat}
    (burst : Burst task (.schedule task time :: .takeDue now :: calls))
    (isDue : time + task.kind.delay ≤ now) : changes task calls = [] := by
  have close := burst.close
  have inOrder := burst.inOrder
  rw [changes_schedule, changes_of_none rfl] at close
  cases changesEq : changes task calls with
  | nil => rfl
  | cons next later =>
      rw [changesEq, List.isChain_cons_cons] at close
      have isChange : next ∈ changes task calls := by simp [changesEq]
      obtain ⟨change, isCall, changeEq⟩ := List.mem_filterMap.1 isChange
      obtain rfl := scheduled?_eq_some_iff.1 changeEq
      have isInstant : next ∈ calls.filterMap (·.instant?) :=
        List.mem_filterMap.2 ⟨_, isCall, rfl⟩
      simp only [List.filterMap_cons, instant?, List.pairwise_cons] at inOrder
      have isLater := inOrder.2.1 next isInstant
      omega

end Burst

end ScheduleCall

namespace Schedule

variable {schedule : Schedule} {task : DelayedTask} {calls : List ScheduleCall}

theorem count_runs_of_notPending (notPending : ∀ deadline, ⟨task, deadline⟩ ∉ schedule.pending)
    (notScheduled : ScheduleCall.changes task calls = []) :
    (schedule.runs calls).count task = 0 := by
  induction calls generalizing schedule with
  | nil => rfl
  | cons call rest ih =>
      rw [ScheduleCall.changes, List.filterMap_eq_nil_iff, List.forall_mem_cons] at notScheduled
      rw [runs, List.count_append, ih ?_ (List.filterMap_eq_nil_iff.2 notScheduled.2),
        List.count_eq_zero_of_not_mem]
      · rw [mem_taken]
        rintro ⟨_, deadline, _, isPending, _⟩
        exact notPending deadline isPending
      · intro deadline isPending
        rcases mem_pending_apply.1 isPending with ⟨time, rfl, _⟩ | ⟨_, wasPending⟩
        · simp [ScheduleCall.scheduled?] at notScheduled
        · exact notPending deadline wasPending

/-- A pending task runs once in a burst that goes on until it is due. -/
theorem count_runs_of_pending {time now : Nat} (distinct : schedule.Distinct)
    (isPending : ⟨task, time + task.kind.delay⟩ ∈ schedule.pending)
    (burst : ScheduleCall.Burst task (.schedule task time :: calls))
    (isPolled : .takeDue now ∈ calls)
    (isOver : ∀ change ∈ ScheduleCall.changes task (.schedule task time :: calls),
      change + task.kind.delay ≤ now) :
    (schedule.runs calls).count task = 1 := by
  induction calls generalizing schedule time with
  | nil => simp at isPolled
  | cons call rest ih =>
      have isDueThen : time + task.kind.delay ≤ now :=
        isOver time (by simp)
      by_cases ends : call.Ends task (time + task.kind.delay)
      · cases call with
        | schedule other next =>
            -- the wait begins anew
            obtain rfl : other = task := ends
            have againPending : ⟨other, next + other.kind.delay⟩ ∈
                (schedule.apply (.schedule other next)).pending :=
              mem_pending_apply.2 (.inl ⟨next, rfl, rfl⟩)
            rw [runs_schedule]
            refine ih (distinct.apply _) againPending burst.tail (by simpa using isPolled) ?_
            intro change isChange
            rw [ScheduleCall.changes_schedule] at isOver
            exact isOver change (List.mem_cons_of_mem _ isChange)
        | cancel other => exact absurd List.mem_cons_self (ends ▸ burst.tail.notCancelled)
        | cancelDocument uri => exact absurd List.mem_cons_self (ends ▸ burst.tail.notClosed)
        | takeDue instant =>
            have isTaken : task ∈ (schedule.takeDue instant).2 :=
              mem_takeDue.2 ⟨_, isPending, ends⟩
            rw [runs, taken, List.count_append,
              List.count_eq_one_of_mem (distinct.nodup_takeDue instant) isTaken,
              count_runs_of_notPending ?_ (burst.changes_eq_nil ends)]
            intro deadline stillPending
            rcases mem_pending_apply.1 stillPending with ⟨_, isCall, _⟩ | ⟨notDue, wasPending⟩
            · simp at isCall
            · exact notDue (distinct.deadline_eq isPending wasPending ▸ ends)
      · have isOther : call.scheduled? task = none := by
          rw [Option.eq_none_iff_forall_ne_some]
          rintro next isChange
          exact ends (by rw [ScheduleCall.scheduled?_eq_some_iff.1 isChange]; rfl)
        have notTaken : task ∉ schedule.taken call := by
          rw [mem_taken]
          rintro ⟨instant, deadline, rfl, alsoPending, isDue⟩
          exact ends (distinct.deadline_eq alsoPending isPending ▸ isDue)
        have isPolledLater : .takeDue now ∈ rest := by
          rcases List.mem_cons.1 isPolled with rfl | isLater
          · exact absurd isDueThen ends
          · exact isLater
        rw [runs, List.count_append, List.count_eq_zero_of_not_mem notTaken, Nat.zero_add]
        refine ih (distinct.apply _) (mem_pending_apply.2 (.inr ⟨ends, isPending⟩))
          (burst.skip isOther) isPolledLater ?_
        rw [ScheduleCall.changes_schedule, ScheduleCall.changes_of_none isOther] at isOver
        rwa [ScheduleCall.changes_schedule]

/-- A schedule after any calls, whatever instants they name.  A task is due its delay after
it was last scheduled, unless it has been cancelled or taken since.  What is taken at an
instant are the tasks due by then, each once, in the order of their deadlines, URIs and
kinds; every other task stays with its deadline.  The next deadline is the least.  So a
task that is scheduled again and again, each time before its delay is over, runs once. -/
theorem tasks_follow_calls (calls : List ScheduleCall) :
    (∀ task deadline, (afterCalls calls).deadline? task = some deadline ↔
      ∃ time, Waits calls task time ∧ deadline = time + task.kind.delay) ∧
    (∀ now,
      (∀ task, task ∈ ((afterCalls calls).takeDue now).2 ↔
        ∃ time, Waits calls task time ∧ time + task.kind.delay ≤ now) ∧
      ((afterCalls calls).takeDue now).2.Nodup ∧
      (∃ items : List Pending, items.map (·.task) = ((afterCalls calls).takeDue now).2 ∧
        items.Pairwise Pending.Precedes ∧
        ∀ item ∈ items, (afterCalls calls).deadline? item.task = some item.deadline) ∧
      ∀ task, ((afterCalls calls).takeDue now).1.deadline? task =
        if task ∈ ((afterCalls calls).takeDue now).2 then none
        else (afterCalls calls).deadline? task) ∧
    (∀ deadline, (afterCalls calls).nextDeadline? = some deadline ↔
      (∃ task, (afterCalls calls).deadline? task = some deadline) ∧
        ∀ task other, (afterCalls calls).deadline? task = some other → deadline ≤ other) ∧
    ∀ task time later now, ScheduleCall.Burst task (.schedule task time :: later) →
      .takeDue now ∈ later →
      (∀ change ∈ ScheduleCall.changes task (.schedule task time :: later),
        change + task.kind.delay ≤ now) →
      ((afterCalls calls).runs (.schedule task time :: later)).count task = 1 := by
  have distinct := distinct_afterCalls calls
  refine ⟨?_, ?_, ?_, ?_⟩
  · intro task deadline
    rw [distinct.deadline?_eq_some_iff, mem_pending_afterCalls]
  · intro now
    refine ⟨?_, distinct.nodup_takeDue now, distinct.takeDue_inOrder now,
      distinct.deadline?_takeDue now⟩
    intro task
    simp only [mem_takeDue, mem_pending_afterCalls]
    constructor
    · rintro ⟨_, ⟨time, waits, rfl⟩, isDue⟩
      exact ⟨time, waits, isDue⟩
    · rintro ⟨time, waits, isDue⟩
      exact ⟨_, ⟨time, waits, rfl⟩, isDue⟩
  · intro deadline
    exact distinct.nextDeadline?_eq_some_iff
  · intro task time later now burst isPolled isOver
    have isPending : ⟨task, time + task.kind.delay⟩ ∈
        ((afterCalls calls).apply (.schedule task time)).pending :=
      mem_pending_apply.2 (.inl ⟨time, rfl, rfl⟩)
    rw [runs_schedule]
    exact count_runs_of_pending (distinct.apply _) isPending burst isPolled isOver

/-- A validation that is pending already is put off by two changes and then runs once,
however often the schedule is asked for what is due. -/
theorem burst_of_two_changes :
    let validation : DelayedTask := ⟨"file:///game/chapter.txt", .validate⟩
    let earlier : List ScheduleCall := [.schedule validation 0]
    let later : List ScheduleCall :=
      [.takeDue 600, .schedule ⟨validation.uri, .index⟩ 700, .schedule validation 899,
        .takeDue 1398, .takeDue 1399, .takeDue 1800]
    ScheduleCall.Burst validation (.schedule validation 400 :: later) ∧
      .takeDue 1399 ∈ later ∧
      (∀ change ∈ ScheduleCall.changes validation (.schedule validation 400 :: later),
        change + validation.kind.delay ≤ 1399) ∧
      ((afterCalls earlier).runs (.schedule validation 400 :: later)).count validation = 1 := by
  intro validation earlier later
  have burst : ScheduleCall.Burst validation (.schedule validation 400 :: later) :=
    ⟨by decide, by decide, by decide, by decide⟩
  have isOver : ∀ change ∈ ScheduleCall.changes validation (.schedule validation 400 :: later),
      change + validation.kind.delay ≤ 1399 := by
    decide
  obtain ⟨_, _, _, runsOnce⟩ := tasks_follow_calls earlier
  exact ⟨burst, by decide, isOver, runsOnce validation 400 later 1399 burst (by decide) isOver⟩

end Schedule

end Gamebook
