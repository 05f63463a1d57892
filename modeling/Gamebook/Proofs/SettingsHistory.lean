import Gamebook.Proofs.ScheduleHistory
import Gamebook.Settings.Store

/-!
# What the listeners of a store are told

Settings are replaced as a whole or in one part, while listeners come and go.  Whatever the
calls were, each part is what was set last, and a listener is told of the calls that changed
something from the moment it came until it left: once of each call, in their order, and with
the parts that the call changed.  Nobody is told of a call that sets what was set before.
-/

namespace Gamebook

/-- A call that changes settings or who listens to them. -/
inductive SettingsCall where
  | subscribe
  | unsubscribe (listener : ListenerId)
  | replace (settings : Settings)
  | setDiagnostics (diagnostics : DiagnosticOptions)
  | setFeatures (features : Features)
deriving DecidableEq

namespace SettingsCall

/-- The diagnostic options that the call sets. -/
def diagnostics? : SettingsCall → Option DiagnosticOptions
  | replace settings => some settings.diagnostics
  | setDiagnostics diagnostics => some diagnostics
  | _ => none

/-- The features that the call sets. -/
def features? : SettingsCall → Option Features
  | replace settings => some settings.features
  | setFeatures features => some features
  | _ => none

end SettingsCall

/-- Of each part of the settings what was set last. -/
def lastSet (initial : Settings) (calls : List SettingsCall) : Settings where
  diagnostics := (calls.filterMap (·.diagnostics?)).getLast?.getD initial.diagnostics
  features := (calls.filterMap (·.features?)).getLast?.getD initial.features

/-- What a call changes of the settings that were set before it. -/
def changeBy (initial : Settings) (earlier : List SettingsCall) (call : SettingsCall) :
    SettingsChange where
  diagnostics := (lastSet initial earlier).diagnostics.normal ≠
    (lastSet initial (earlier ++ [call])).diagnostics.normal
  features := (lastSet initial earlier).features ≠
    (lastSet initial (earlier ++ [call])).features

/-- The listener has subscribed and not unsubscribed since.  Its number says how many have
subscribed before it. -/
def IsListening (calls : List SettingsCall) (listener : ListenerId) : Prop :=
  ∃ earlier later, calls = earlier ++ .subscribe :: later ∧
    earlier.count .subscribe = listener ∧ ∀ call ∈ later, call ≠ .unsubscribe listener

section Histories

variable {initial : Settings} {calls : List SettingsCall} {call : SettingsCall}
  {listener : ListenerId}

theorem isListening_concat :
    IsListening (calls ++ [call]) listener ↔
      (call = .subscribe ∧ calls.count .subscribe = listener) ∨
        call ≠ .unsubscribe listener ∧ IsListening calls listener :=
  @exists_split_concat_of SettingsCall calls call .subscribe
    (fun earlier => earlier.count .subscribe = listener) (· ≠ .unsubscribe listener)

theorem IsListening.lt_count (listens : IsListening calls listener) :
    listener < calls.count .subscribe := by
  obtain ⟨earlier, later, rfl, rfl, _⟩ := listens
  rw [List.count_append, List.count_cons_self]
  exact Nat.lt_add_of_pos_right (Nat.succ_pos _)

theorem lastSet_concat (initial : Settings) (calls : List SettingsCall) (call : SettingsCall) :
    lastSet initial (calls ++ [call]) =
      { diagnostics := call.diagnostics?.getD (lastSet initial calls).diagnostics
        features := call.features?.getD (lastSet initial calls).features } := by
  cases call <;>
    simp [lastSet, List.filterMap_append, SettingsCall.diagnostics?, SettingsCall.features?]

end Histories

namespace SettingsStore

variable {store : SettingsStore} {initial : Settings} {calls : List SettingsCall}
  {call : SettingsCall} {listener : ListenerId}

/-- The store after a call, and what its listeners are told. -/
def apply (store : SettingsStore) : SettingsCall → SettingsStore × List Notice
  | .subscribe => (store.subscribe.1, [])
  | .unsubscribe listener => ((store.unsubscribe listener).1, [])
  | .replace settings => store.replace settings
  | .setDiagnostics diagnostics => store.setDiagnostics diagnostics
  | .setFeatures features => store.setFeatures features

/-- The store after calls, from one of the given settings on. -/
def afterCalls (initial : Settings) (calls : List SettingsCall) : SettingsStore :=
  calls.foldl (fun store call => (store.apply call).1) (ofSettings initial)

/-- What listeners are told while calls are made, in order. -/
def notices (store : SettingsStore) : List SettingsCall → List Notice
  | [] => []
  | call :: rest => (store.apply call).2 ++ (store.apply call).1.notices rest

/-- What one listener is told among all notices. -/
def told (listener : ListenerId) (notices : List Notice) : List SettingsChange :=
  (notices.filter (·.listener = listener)).map (·.change)

/-! ## One call -/

theorem current_apply (store : SettingsStore) (call : SettingsCall) :
    (store.apply call).1.current =
      { diagnostics := call.diagnostics?.getD store.current.diagnostics
        features := call.features?.getD store.current.features } := by
  cases call <;> rfl

/-- Every call tells all listeners the parts in which the settings differ, if there are any. -/
theorem notices_apply (store : SettingsStore) (call : SettingsCall) :
    (store.apply call).2 =
      let change := SettingsChange.between store.current (store.apply call).1.current
      if change.isEmpty then [] else store.listeners.map (⟨·, change⟩) := by
  cases call with
  | subscribe | unsubscribe _ =>
      simp [apply, subscribe, unsubscribe, SettingsChange.between, SettingsChange.isEmpty]
  | replace _ | setDiagnostics _ | setFeatures _ => rfl

/-! ## All calls -/

theorem afterCalls_concat (initial : Settings) (calls : List SettingsCall)
    (call : SettingsCall) :
    afterCalls initial (calls ++ [call]) = ((afterCalls initial calls).apply call).1 := by
  rw [afterCalls, List.foldl_append]
  rfl

theorem notices_concat (store : SettingsStore) (calls : List SettingsCall)
    (call : SettingsCall) :
    store.notices (calls ++ [call]) =
      store.notices calls ++
        ((calls.foldl (fun store call => (store.apply call).1) store).apply call).2 := by
  induction calls generalizing store with
  | nil => simp [notices]
  | cons first rest ih => simp [notices, ih]

theorem current_afterCalls (initial : Settings) (calls : List SettingsCall) :
    (afterCalls initial calls).current = lastSet initial calls := by
  induction calls using List.reverseRecOn with
  | nil => rfl
  | append_singleton calls call ih =>
      rw [afterCalls_concat, current_apply, ih, lastSet_concat]

/-- The listeners of a store after calls: those that have subscribed and not unsubscribed
since, in the order in which they came. -/
structure Attended (store : SettingsStore) (calls : List SettingsCall) : Prop where
  next_eq : store.next = calls.count .subscribe
  mem_iff : ∀ {listener}, listener ∈ store.listeners ↔ IsListening calls listener
  inOrder : store.listeners.Pairwise (· < ·)

theorem Attended.apply (attended : store.Attended calls) (call : SettingsCall) :
    (store.apply call).1.Attended (calls ++ [call]) := by
  obtain ⟨nextEq, memIff, inOrder⟩ := attended
  cases call with
  | subscribe =>
      refine ⟨by simp [SettingsStore.apply, SettingsStore.subscribe, nextEq], ?_, ?_⟩
      · intro listener
        simp [SettingsStore.apply, SettingsStore.subscribe, isListening_concat, memIff, nextEq,
          eq_comm (a := listener), or_comm]
      · refine List.pairwise_append.2 ⟨inOrder, List.pairwise_singleton _ _, ?_⟩
        intro first isFirst second isNew
        obtain rfl := List.mem_singleton.1 isNew
        rw [nextEq]
        exact (memIff.1 isFirst).lt_count
  | unsubscribe gone =>
      refine ⟨by simp [SettingsStore.apply, SettingsStore.unsubscribe, nextEq], ?_,
        inOrder.filter _⟩
      intro listener
      simp [SettingsStore.apply, SettingsStore.unsubscribe, isListening_concat, memIff,
        eq_comm (a := gone), and_comm]
  | replace _ | setDiagnostics _ | setFeatures _ =>
      refine ⟨?_, ?_, inOrder⟩
      · change store.next = _
        simpa using nextEq
      · intro listener
        change listener ∈ store.listeners ↔ _
        simpa [isListening_concat] using memIff

theorem attended_afterCalls (initial : Settings) (calls : List SettingsCall) :
    (afterCalls initial calls).Attended calls := by
  induction calls using List.reverseRecOn with
  | nil => exact ⟨rfl, by simp [afterCalls, ofSettings, IsListening], List.Pairwise.nil⟩
  | append_singleton calls call ih =>
      rw [afterCalls_concat]
      exact ih.apply call

instance (calls : List SettingsCall) (listener : ListenerId) :
    Decidable (IsListening calls listener) :=
  decidable_of_iff _ (attended_afterCalls {} calls).mem_iff

/-- What a listener hears of a call behind others: the change, if it is there and there is
one. -/
def heard (initial : Settings) (earlier : List SettingsCall) (call : SettingsCall)
    (listener : ListenerId) : Option SettingsChange :=
  if IsListening earlier listener ∧ (changeBy initial earlier call).isEmpty = false then
    some (changeBy initial earlier call)
  else
    none

theorem sent_eq (initial : Settings) (calls : List SettingsCall) (call : SettingsCall) :
    ((afterCalls initial calls).apply call).2 =
      if (changeBy initial calls call).isEmpty then []
      else (afterCalls initial calls).listeners.map (⟨·, changeBy initial calls call⟩) := by
  have changeEq : changeBy initial calls call =
      SettingsChange.between (afterCalls initial calls).current
        ((afterCalls initial calls).apply call).1.current := by
    rw [← afterCalls_concat, current_afterCalls, current_afterCalls]
    rfl
  rw [notices_apply, changeEq]

theorem mem_sent_iff {notice : Notice} :
    notice ∈ ((afterCalls initial calls).apply call).2 ↔
      IsListening calls notice.listener ∧ notice.change = changeBy initial calls call ∧
        (notice.change.diagnostics = true ∨ notice.change.features = true) := by
  have isThere := @(attended_afterCalls initial calls).mem_iff
  rw [sent_eq]
  cases isEmpty : (changeBy initial calls call).isEmpty with
  | true =>
      rw [SettingsChange.isEmpty] at isEmpty
      grind
  | false =>
      rw [SettingsChange.isEmpty] at isEmpty
      rw [if_neg (by decide), List.mem_map]
      constructor
      · rintro ⟨listener, isListener, rfl⟩
        exact ⟨isThere.1 isListener, rfl, by grind⟩
      · rintro ⟨listens, changeEq, _⟩
        exact ⟨notice.listener, isThere.2 listens, by rw [← changeEq]⟩

theorem told_append (listener : ListenerId) (first second : List Notice) :
    told listener (first ++ second) = told listener first ++ told listener second := by
  simp [told]

theorem told_map (listener : ListenerId) (listeners : List ListenerId)
    (change : SettingsChange) :
    told listener (listeners.map (⟨·, change⟩)) =
      List.replicate (listeners.count listener) change := by
  rw [told, List.filter_map, List.map_map]
  change (listeners.filter (· = listener)).map (fun _ => change) = _
  rw [List.filter_eq, List.map_replicate]

theorem told_sent (initial : Settings) (calls : List SettingsCall) (call : SettingsCall)
    (listener : ListenerId) :
    told listener ((afterCalls initial calls).apply call).2 =
      (heard initial calls call listener).toList := by
  have attended := attended_afterCalls initial calls
  have distinct : (afterCalls initial calls).listeners.Nodup :=
    attended.inOrder.imp fun isLess => Nat.ne_of_lt isLess
  rw [sent_eq, heard]
  cases isEmpty : (changeBy initial calls call).isEmpty with
  | true => simp [told]
  | false =>
      rw [if_neg (by decide), told_map, distinct.count]
      by_cases listens : IsListening calls listener
      · simp [attended.mem_iff, listens]
      · simp [attended.mem_iff, listens]

/-- Over all calls a listener is told what it hears of each. -/
theorem told_notices (initial : Settings) (calls : List SettingsCall) (listener : ListenerId) :
    told listener ((ofSettings initial).notices calls) =
      calls.zipIdx.filterMap fun (call, time) =>
        heard initial (calls.take time) call listener := by
  induction calls using List.reverseRecOn with
  | nil => rfl
  | append_singleton calls call ih =>
      -- the calls before one are the same whether or not another follows
      have sameBefore : (calls.zipIdx.filterMap fun (other, time) =>
            heard initial ((calls ++ [call]).take time) other listener) =
          calls.zipIdx.filterMap fun (other, time) =>
            heard initial (calls.take time) other listener := by
        apply List.filterMap_congr
        rintro ⟨other, time⟩ isCall
        have inside := (List.snd_lt_of_mem_zipIdx isCall).le
        simp only at inside
        simp only [List.take_append_of_le_length inside]
      rw [notices_concat, ← afterCalls, told_append, ih, told_sent, List.zipIdx_append,
        List.filterMap_append, sameBefore]
      cases heardEq : heard initial calls call listener <;> simp [heardEq]

/-- After any calls the settings are, part by part, those that were set last, subscribing
gives the number of subscriptions so far, and unsubscribing answers whether the listener was
there.  Each listener has been told, in order and once each, the changes of the calls that
changed something while it was there.  One call tells exactly the listeners that are there,
in the order in which they came, and only if it changes something. -/
theorem notices_follow_calls (initial : Settings) (calls : List SettingsCall) :
    (afterCalls initial calls).current = lastSet initial calls ∧
    (afterCalls initial calls).subscribe.2 = calls.count .subscribe ∧
    (∀ listener, ((afterCalls initial calls).unsubscribe listener).2 = true ↔
      IsListening calls listener) ∧
    (∀ listener, told listener ((ofSettings initial).notices calls) =
      calls.zipIdx.filterMap fun (call, time) =>
        heard initial (calls.take time) call listener) ∧
    ∀ call, ((afterCalls initial calls).apply call).2.Pairwise
        (fun first second => first.listener < second.listener) ∧
      ∀ notice, notice ∈ ((afterCalls initial calls).apply call).2 ↔
        IsListening calls notice.listener ∧ notice.change = changeBy initial calls call ∧
          (notice.change.diagnostics = true ∨ notice.change.features = true) := by
  have attended := attended_afterCalls initial calls
  refine ⟨current_afterCalls initial calls, attended.next_eq, ?_, told_notices initial calls, ?_⟩
  · intro listener
    rw [unsubscribe, List.contains_iff_mem, attended.mem_iff]
  · intro call
    refine ⟨?_, fun notice => mem_sent_iff⟩
    rw [sent_eq]
    split
    · exact List.Pairwise.nil
    · exact List.pairwise_map.2 attended.inOrder

end SettingsStore

end Gamebook
