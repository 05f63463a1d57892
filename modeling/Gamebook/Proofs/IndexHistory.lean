import Mathlib.Data.List.Induction
import Mathlib.Data.List.Nodup
import Mathlib.Data.List.Perm.Basic
import Gamebook.Proofs.ProjectEntries
import Gamebook.Proofs.ScheduleHistory

/-!
# What an index remembers

An index is changed by updates with documents and by purges of URIs, each for several at
a time.  Whatever the calls were, under a URI it has the entry of the document that was
the last to be indexed there, unless the URI has been purged since.  So the index, which
keeps its entries by project, refines one map from URIs to entries: each call does to the
projects what it does to that map, and the map answers every question about the index.
-/

namespace Gamebook

/-- A call that changes an index. -/
inductive IndexCall where
  | update (documents : List Document)
  | purge (uris : List Uri)

/-- What a call does to one URI. -/
inductive IndexEvent where
  | indexed (document : Document)
  | removed (uri : Uri)

namespace IndexEvent

def uri : IndexEvent → Uri
  | indexed document => document.uri
  | removed uri => uri

/-- What is under the URI after the event. -/
def entry? : IndexEvent → Option SceneEntry
  | indexed document => some (.ofDocument document)
  | removed _ => none

end IndexEvent

/-- What a call does, one URI after the other. -/
def IndexCall.events : IndexCall → List IndexEvent
  | update documents => documents.map .indexed
  | purge uris => uris.map .removed

/-- The document was indexed, and nothing has happened to its URI since. -/
def LastIndexed (events : List IndexEvent) (document : Document) : Prop :=
  ∃ earlier later, events = earlier ++ .indexed document :: later ∧
    ∀ event ∈ later, event.uri ≠ document.uri

theorem lastIndexed_concat {events : List IndexEvent} {event : IndexEvent}
    {document : Document} :
    LastIndexed (events ++ [event]) document ↔
      event = .indexed document ∨ event.uri ≠ document.uri ∧ LastIndexed events document :=
  exists_split_concat

namespace ProjectIndex

variable {index : ProjectIndex} {uri : Uri}

def apply (index : ProjectIndex) : IndexCall → ProjectIndex
  | .update documents => index.update documents
  | .purge uris => index.purge uris

/-- The index after calls, from an empty one on. -/
def afterCalls (calls : List IndexCall) : ProjectIndex :=
  calls.foldl apply {}

def undergo (index : ProjectIndex) : IndexEvent → ProjectIndex
  | .indexed document => index.insert document
  | .removed uri => index.remove uri

theorem get?_undergo (event : IndexEvent) :
    (index.undergo event).get? uri =
      if uri = event.uri then event.entry? else index.get? uri := by
  cases event with
  | indexed document => exact get?_insert document
  | removed other => exact index.get?_remove other uri

/-- A call does to the index what it does to one URI after the other. -/
theorem apply_eq_foldl (index : ProjectIndex) (call : IndexCall) :
    index.apply call = call.events.foldl undergo index := by
  cases call with
  | update documents =>
      rw [apply, IndexCall.events, List.foldl_map]
      rfl
  | purge uris =>
      rw [apply, IndexCall.events, List.foldl_map]
      induction uris generalizing index with
      | nil => rfl
      | cons uri rest ih => exact ih (index.remove uri)

theorem afterCalls_eq_foldl (calls : List IndexCall) :
    afterCalls calls = (calls.flatMap IndexCall.events).foldl undergo {} := by
  rw [afterCalls, List.foldl_flatMap]
  congr
  funext index call
  exact apply_eq_foldl index call

/-- Under a URI stands what the last event about it left there. -/
theorem get?_foldl_undergo (events : List IndexEvent) (entry : SceneEntry) :
    (events.foldl undergo {}).get? uri = some entry ↔
      ∃ document, LastIndexed events document ∧ document.uri = uri ∧
        entry = .ofDocument document := by
  induction events using List.reverseRecOn with
  | nil => simp [LastIndexed, get?]
  | append_singleton events event ih =>
      rw [List.foldl_append, List.foldl_cons, List.foldl_nil, get?_undergo]
      by_cases isOwn : uri = event.uri
      · rw [if_pos isOwn]
        cases event with
        | indexed document =>
            constructor
            · intro entryEq
              exact ⟨document, lastIndexed_concat.2 (.inl rfl), isOwn.symm,
                (Option.some.inj entryEq).symm⟩
            · rintro ⟨other, last, uriEq, rfl⟩
              rcases lastIndexed_concat.1 last with same | ⟨untouched, _⟩
              · rw [same, IndexEvent.entry?]
              · exact absurd (isOwn.symm.trans uriEq.symm) untouched
        | removed removedUri =>
            refine iff_of_false (by simp [IndexEvent.entry?]) ?_
            rintro ⟨other, last, uriEq, _⟩
            rcases lastIndexed_concat.1 last with same | ⟨untouched, _⟩
            · simp at same
            · exact untouched (isOwn.symm.trans uriEq.symm)
      · rw [if_neg isOwn, ih]
        apply exists_congr
        intro document
        apply and_congr_left
        intro isThere
        obtain ⟨uriEq, _⟩ := isThere
        have untouched : event.uri ≠ document.uri := fun same => isOwn (uriEq.symm.trans same.symm)
        have notIndexed : event ≠ .indexed document := fun same => untouched (by rw [same]; rfl)
        rw [lastIndexed_concat]
        simp [untouched, notIndexed]

/-! ## Answers about the whole index -/

theorem mem_scenes_snapshot {path : String} {entry : SceneEntry} :
    entry ∈ (index.snapshot path).scenes ↔
      entry.project = path ∧ index.get? entry.uri = some entry := by
  rw [ProjectSnapshot.mem_scenes_iff]
  constructor
  · rintro ⟨uri, found⟩
    obtain rfl := index.filed_snapshot path uri entry found
    rw [document?_snapshot] at found
    split at found
    · rename_i isIn
      exact ⟨isIn, found⟩
    · simp at found
  · rintro ⟨isIn, found⟩
    exact ⟨entry.uri, (document?_snapshot _ _ _).trans ((if_pos isIn).trans found)⟩

theorem hasProject_iff {path : String} :
    index.hasProject path = true ↔
      ∃ uri, Uri.project uri = path ∧ (index.get? uri).isSome = true := by
  rw [← Bool.not_eq_false, hasProject_eq_false_iff]
  simp [Option.isSome_iff_ne_none]

theorem isEmpty_iff : index.isEmpty = true ↔ ∀ uri, index.get? uri = none := by
  rw [isEmpty, Std.TreeMap.isEmpty_iff_forall_contains]
  constructor
  · intro noProject uri
    exact hasProject_eq_false_iff.1 (noProject (Uri.project uri)) uri rfl
  · intro nothing path
    exact hasProject_eq_false_iff.2 fun uri _ => nothing uri

theorem project_of_mem_keys {path : String} {scenes : Std.TreeMap Uri SceneEntry}
    (isProject : index.projects[path]? = some scenes) (isKey : uri ∈ scenes.keys) :
    Uri.project uri = path := by
  rw [Std.TreeMap.mem_keys, ← Std.TreeMap.isSome_getElem?_iff_mem] at isKey
  obtain ⟨entry, found⟩ := Option.isSome_iff_exists.1 isKey
  exact (index.sound.filed isProject found).2

/-- The URIs of all scenes, project after project. -/
def uris (index : ProjectIndex) : List Uri :=
  index.projects.toList.flatMap (·.2.keys)

theorem mem_uris_iff : uri ∈ index.uris ↔ (index.get? uri).isSome = true := by
  simp only [uris, List.mem_flatMap, Prod.exists, Std.TreeMap.mem_toList_iff_getElem?_eq_some]
  constructor
  · rintro ⟨path, scenes, isProject, isKey⟩
    rw [get?, project_of_mem_keys isProject isKey, isProject]
    exact Std.TreeMap.isSome_getElem?_iff_mem.2 (Std.TreeMap.mem_keys.1 isKey)
  · intro isIn
    rw [get?] at isIn
    cases isProject : index.projects[Uri.project uri]? with
    | none => simp [isProject] at isIn
    | some scenes =>
        rw [isProject] at isIn
        exact ⟨Uri.project uri, scenes, isProject,
          Std.TreeMap.mem_keys.2 (Std.TreeMap.isSome_getElem?_iff_mem.1 isIn)⟩

theorem nodup_uris (index : ProjectIndex) : index.uris.Nodup := by
  refine List.nodup_flatMap.2 ⟨?_, ?_⟩
  · intro project _
    exact Std.TreeMap.nodup_keys
  · -- a URI of two projects would make their paths equal
    refine Std.TreeMap.distinct_keys_toList.imp_of_mem ?_
    rintro ⟨first, _⟩ ⟨second, _⟩ isFirst isSecond different uri inFirst inSecond
    rw [Std.TreeMap.mem_toList_iff_getElem?_eq_some] at isFirst isSecond
    apply different
    rw [← project_of_mem_keys isFirst inFirst, project_of_mem_keys isSecond inSecond]
    exact Std.ReflCmp.compare_self

theorem length_uris (index : ProjectIndex) : index.uris.length = index.size := by
  have counted (projects : List (String × Std.TreeMap Uri SceneEntry)) (count : Nat) :
      projects.foldl (fun count project => count + project.2.size) count =
        count + (projects.flatMap fun project => project.2.keys).length := by
    induction projects generalizing count with
    | nil => rfl
    | cons project rest ih =>
        rw [List.foldl_cons, ih, List.flatMap_cons, List.length_append, Std.TreeMap.length_keys,
          Nat.add_assoc]
  rw [size, Std.TreeMap.foldl_eq_foldl_toList, counted, Nat.zero_add, uris]

/-- The sizes of the projects add up to the number of URIs with an entry. -/
theorem size_eq_length {keys : List Uri} (distinct : keys.Nodup)
    (isKey : ∀ uri, uri ∈ keys ↔ (index.get? uri).isSome = true) : index.size = keys.length := by
  rw [← length_uris]
  refine List.Perm.length_eq ((List.perm_ext_iff_of_nodup index.nodup_uris distinct).2 ?_)
  intro uri
  rw [mem_uris_iff, isKey]

/-! ## The flat map -/

/-- What a call does to the entries when these are in one map. -/
def onEntries (entries : Std.TreeMap Uri SceneEntry) : IndexCall → Std.TreeMap Uri SceneEntry
  | .update documents =>
      documents.foldl (fun entries document => entries.insert document.uri (.ofDocument document))
        entries
  | .purge uris => uris.foldl (·.erase ·) entries

def entriesAfterCalls (calls : List IndexCall) : Std.TreeMap Uri SceneEntry :=
  calls.foldl onEntries {}

/-- The entries of a project in one map of all entries. -/
def entriesOf (path : String) (entries : Std.TreeMap Uri SceneEntry) :
    Std.TreeMap Uri SceneEntry :=
  entries.filter fun uri _ => Uri.project uri == path

theorem getElem?_entriesOf (path : String) (entries : Std.TreeMap Uri SceneEntry) (uri : Uri) :
    (entriesOf path entries)[uri]? = if Uri.project uri = path then entries[uri]? else none := by
  rw [entriesOf, Std.TreeMap.getElem?_filter']
  by_cases isIn : Uri.project uri = path
  · cases entries[uri]? <;> simp [isIn]
  · simp [isIn]

/-- The projects of the index are the parts of one map, and no question tells the two
apart. -/
structure Refines (index : ProjectIndex) (entries : Std.TreeMap Uri SceneEntry) : Prop where
  entry : ∀ uri, index.get? uri = entries[uri]?
  project : ∀ path, index.projects[path]?.map (·.toList) =
    if (entriesOf path entries).isEmpty then none else some (entriesOf path entries).toList
  snapshot : ∀ path, (index.snapshot path).entries.toList = (entriesOf path entries).toList
  hasProject : ∀ path, index.hasProject path = !(entriesOf path entries).isEmpty
  isEmpty : index.isEmpty = entries.isEmpty
  size : index.size = entries.size

theorem Refines.of_get? {entries : Std.TreeMap Uri SceneEntry}
    (same : ∀ uri, index.get? uri = entries[uri]?) : index.Refines entries := by
  have sameScenes (path : String) :
      (index.snapshot path).entries.Equiv (entriesOf path entries) := by
    apply Std.TreeMap.Equiv.of_forall_constGet?_eq
    intro uri
    rw [getElem?_entriesOf, ← same]
    exact index.document?_snapshot path uri
  have sameProject (path : String) :
      index.hasProject path = !(entriesOf path entries).isEmpty := by
    rw [Bool.eq_iff_iff, Bool.not_eq_true', Std.TreeMap.isEmpty_eq_false_iff_exists_mem,
      hasProject_iff]
    refine exists_congr fun uri => ?_
    rw [← Std.TreeMap.isSome_getElem?_iff_mem, getElem?_entriesOf, same]
    by_cases isIn : Uri.project uri = path <;> simp [isIn]
  refine ⟨same, ?_, fun path => (sameScenes path).toList_eq, sameProject, ?_, ?_⟩
  · intro path
    have scenesEq := (sameScenes path).toList_eq
    simp only [ProjectIndex.snapshot, Projects.scenesOf] at scenesEq
    have isThere := sameProject path
    rw [ProjectIndex.hasProject, Std.TreeMap.contains_eq_isSome_getElem?] at isThere
    cases projectEq : index.projects[path]? with
    | none =>
        rw [projectEq, Option.isSome_none, eq_comm, Bool.not_eq_false'] at isThere
        rw [if_pos isThere, Option.map_none]
    | some scenes =>
        rw [projectEq, Option.isSome_some, eq_comm, Bool.not_eq_true'] at isThere
        rw [projectEq, Option.getD_some] at scenesEq
        rw [isThere, Option.map_some, scenesEq]
        rfl
  · rw [Bool.eq_iff_iff, isEmpty_iff, Std.TreeMap.isEmpty_iff_forall_not_mem]
    refine forall_congr' fun uri => ?_
    rw [← Std.TreeMap.isSome_getElem?_iff_mem, same, Option.not_isSome_iff_eq_none]
  · rw [← Std.TreeMap.length_keys]
    refine size_eq_length Std.TreeMap.nodup_keys fun uri => ?_
    rw [Std.TreeMap.mem_keys, ← Std.TreeMap.isSome_getElem?_iff_mem, same]

/-- A call does the same to the index and to the map. -/
theorem Refines.apply {entries : Std.TreeMap Uri SceneEntry} (refines : index.Refines entries)
    (call : IndexCall) : (index.apply call).Refines (onEntries entries call) := by
  apply Refines.of_get?
  replace refines := refines.entry
  cases call with
  | update documents =>
      induction documents generalizing index entries with
      | nil => exact refines
      | cons document rest ih =>
          refine @ih (index.insert document) _ fun uri => ?_
          rw [get?_insert, Std.TreeMap.getElem?_insert, refines]
          simp only [Std.LawfulEqCmp.compare_eq_iff_eq, eq_comm (a := uri)]
  | purge uris =>
      induction uris generalizing index entries with
      | nil => exact refines
      | cons other rest ih =>
          refine @ih (index.remove other) _ fun uri => ?_
          rw [get?_remove, Std.TreeMap.getElem?_erase, refines]
          simp only [Std.LawfulEqCmp.compare_eq_iff_eq, eq_comm (a := uri)]

theorem refines_afterCalls (calls : List IndexCall) :
    (afterCalls calls).Refines (entriesAfterCalls calls) := by
  induction calls using List.reverseRecOn with
  | nil => exact .of_get? fun uri => by simp [afterCalls, entriesAfterCalls, get?]
  | append_singleton calls call ih =>
      rw [afterCalls, List.foldl_concat, entriesAfterCalls, List.foldl_concat]
      exact ih.apply call

/-! ## Repeated updates -/

/-- The projects with their scenes. -/
def contents (index : ProjectIndex) : List (String × List (Uri × SceneEntry)) :=
  (index.projects.map fun _ scenes => scenes.toList).toList

/-- Two indexes that no question tells apart. -/
structure SameEntries (first second : ProjectIndex) : Prop where
  contents : first.contents = second.contents
  entry : ∀ uri, first.get? uri = second.get? uri
  scenes : ∀ path, (first.snapshot path).scenes = (second.snapshot path).scenes
  hasProject : ∀ path, first.hasProject path = second.hasProject path
  size : first.size = second.size
  isEmpty : first.isEmpty = second.isEmpty

/-- Indexes that refine one map are the same to every question. -/
theorem SameEntries.of_refines {first second : ProjectIndex}
    {entries : Std.TreeMap Uri SceneEntry} (ofFirst : first.Refines entries)
    (ofSecond : second.Refines entries) : SameEntries first second where
  contents := by
    apply Std.TreeMap.Equiv.toList_eq
    apply Std.TreeMap.Equiv.of_forall_constGet?_eq
    intro path
    rw [Std.TreeMap.getElem?_map, Std.TreeMap.getElem?_map, ofFirst.project, ofSecond.project]
  entry uri := (ofFirst.entry uri).trans (ofSecond.entry uri).symm
  scenes path := by
    rw [ProjectSnapshot.scenes, values_eq_map_toList, ofFirst.snapshot, ProjectSnapshot.scenes,
      values_eq_map_toList, ofSecond.snapshot]
  hasProject path := (ofFirst.hasProject path).trans (ofSecond.hasProject path).symm
  size := ofFirst.size.trans ofSecond.size.symm
  isEmpty := ofFirst.isEmpty.trans ofSecond.isEmpty.symm

/-- After an update stands under a URI the last document of the batch with that URI. -/
theorem get?_update (index : ProjectIndex) (documents : List Document) (uri : Uri) :
    (index.update documents).get? uri =
      ((documents.reverse.find? (·.uri = uri)).map .ofDocument).or (index.get? uri) := by
  induction documents using List.reverseRecOn with
  | nil => rfl
  | append_singleton documents document ih =>
      have lastInserted : index.update (documents ++ [document]) =
          (index.update documents).insert document := by
        rw [update, List.foldl_append]
        rfl
      rw [lastInserted, get?_insert, List.reverse_concat, List.find?_cons]
      by_cases isOwn : uri = document.uri
      · simp [isOwn]
      · simp [isOwn, Ne.symm isOwn, ih]

theorem get?_update_update (index : ProjectIndex) (documents : List Document) (uri : Uri) :
    ((index.update documents).update documents).get? uri = (index.update documents).get? uri := by
  rw [get?_update (index.update documents), get?_update index]
  cases documents.reverse.find? (·.uri = uri) <;> rfl

theorem sameEntries_update_update {entries : Std.TreeMap Uri SceneEntry}
    (refines : index.Refines entries) (documents : List Document) :
    SameEntries ((index.update documents).update documents) (index.update documents) := by
  have once : (index.update documents).Refines _ := refines.apply (.update documents)
  have twice : ((index.update documents).update documents).Refines _ :=
    .of_get? fun uri => (get?_update_update index documents uri).trans (once.entry uri)
  exact .of_refines twice once

/-- An index after any updates and purges refines the map to which the same was done: the
scenes of a project are the part of the map with the URIs of the project, a project is
there when this part is not empty, and the sizes add up.  Every project that is kept has
scenes, and every entry is filed under its own URI in its own project.

Under a URI stands the entry of the last document indexed there since the URI was purged;
the snapshot of a project has the entries under the URIs of the project, in their order; a
project is there when such an entry is, and the size is the number of all entries.
Repeating an update changes nothing. -/
theorem entries_follow_calls (calls : List IndexCall) :
    (afterCalls calls).Refines (entriesAfterCalls calls) ∧
    (∀ path scenes, (afterCalls calls).projects[path]? = some scenes →
      scenes.isEmpty = false ∧ ∀ (uri : Uri) entry, scenes[uri]? = some entry →
        entry.uri = uri ∧ Uri.project uri = path) ∧
    (∀ uri entry, (afterCalls calls).get? uri = some entry ↔
      ∃ document, LastIndexed (calls.flatMap IndexCall.events) document ∧
        document.uri = uri ∧ entry = .ofDocument document) ∧
    (∀ path, ((afterCalls calls).snapshot path).path = path ∧
      (∀ uri, ((afterCalls calls).snapshot path).document? uri =
        if Uri.project uri = path then (afterCalls calls).get? uri else none) ∧
      (∀ entry, entry ∈ ((afterCalls calls).snapshot path).scenes ↔
        entry.project = path ∧ (afterCalls calls).get? entry.uri = some entry) ∧
      ((afterCalls calls).snapshot path).scenes.Pairwise
        fun first second => first.uri < second.uri) ∧
    (∀ path, (afterCalls calls).hasProject path = true ↔
      ∃ uri, Uri.project uri = path ∧ ((afterCalls calls).get? uri).isSome = true) ∧
    ((afterCalls calls).isEmpty = true ↔ ∀ uri, (afterCalls calls).get? uri = none) ∧
    (∃ uris : List Uri, uris.Nodup ∧
      (∀ uri, uri ∈ uris ↔ ((afterCalls calls).get? uri).isSome = true) ∧
      (afterCalls calls).size = uris.length) ∧
    ∀ documents, SameEntries (((afterCalls calls).update documents).update documents)
      ((afterCalls calls).update documents) := by
  have refines := refines_afterCalls calls
  have sound := (afterCalls calls).sound
  refine ⟨refines, ?_, ?_, ?_, fun path => hasProject_iff, isEmpty_iff, ?_,
    sameEntries_update_update refines⟩
  · intro path scenes isProject
    exact ⟨sound.notEmpty isProject, fun uri entry found => sound.filed isProject found⟩
  · intro uri entry
    rw [afterCalls_eq_foldl]
    exact get?_foldl_undergo _ entry
  · intro path
    exact ⟨rfl, document?_snapshot _ path, fun entry => mem_scenes_snapshot,
      ProjectSnapshot.scenes_pairwise (filed_snapshot _ path)⟩
  · exact ⟨(afterCalls calls).uris, nodup_uris _, fun uri => mem_uris_iff,
      (length_uris _).symm⟩

end ProjectIndex

end Gamebook
