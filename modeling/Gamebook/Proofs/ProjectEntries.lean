import Gamebook.Proofs.ExportLookup

/-!
# The entries of a project

An entry is filed under its own URI, in an index and in what is taken from it.
So the scenes of a project come in the order of their URIs, each once, and the
scenes that a document sees are those of its own project.
-/

namespace Gamebook

/-- Every entry is filed under its own URI. -/
def Filed (entries : Std.TreeMap Uri SceneEntry) : Prop :=
  ∀ (uri : Uri) (entry : SceneEntry), entries[uri]? = some entry → entry.uri = uri

namespace Filed

theorem empty : Filed {} := by
  intro uri entry found
  simp at found

theorem insert {entries : Std.TreeMap Uri SceneEntry} (filed : Filed entries)
    (entry : SceneEntry) : Filed (entries.insert entry.uri entry) := by
  intro uri other found
  rw [Std.TreeMap.getElem?_insert] at found
  split at found
  · rename_i same
    obtain rfl := Option.some.inj found
    exact Std.LawfulEqCmp.compare_eq_iff_eq.1 same
  · exact filed uri other found

end Filed

/-! ## The scenes of a snapshot -/

theorem values_eq_map_toList {Value : Type} (entries : Std.TreeMap String Value) :
    entries.values = entries.toList.map (·.2) := by
  have asFold : entries.values = entries.foldr (fun _ entry rest => entry :: rest) [] := rfl
  rw [asFold, Std.TreeMap.foldr_eq_foldr_toList]
  induction entries.toList with
  | nil => rfl
  | cons item rest ih => rw [List.foldr_cons, ih, List.map_cons]

namespace ProjectSnapshot

variable {snapshot : ProjectSnapshot} {entry : SceneEntry}

theorem mem_scenes_iff :
    entry ∈ snapshot.scenes ↔ ∃ uri, snapshot.document? uri = some entry := by
  rw [scenes, values_eq_map_toList, List.mem_map]
  constructor
  · rintro ⟨⟨uri, found⟩, isItem, rfl⟩
    exact ⟨uri, Std.TreeMap.mem_toList_iff_getElem?_eq_some.1 isItem⟩
  · rintro ⟨uri, found⟩
    exact ⟨(uri, entry), Std.TreeMap.mem_toList_iff_getElem?_eq_some.2 found, rfl⟩

theorem document?_withEntry (uri : Uri) :
    (snapshot.withEntry entry).document? uri =
      if uri = entry.uri then some entry else snapshot.document? uri := by
  rw [document?, withEntry, Std.TreeMap.getElem?_insert]
  simp only [Std.LawfulEqCmp.compare_eq_iff_eq, eq_comm (a := uri), document?]

theorem scene?_mem_scenes {name : String} (found : snapshot.scene? name = some entry) :
    entry ∈ snapshot.scenes :=
  List.mem_of_find?_eq_some found

theorem sceneFrom?_mem_scenes {origin : SceneEntry} (isOrigin : origin ∈ snapshot.scenes)
    {name : String} (found : snapshot.sceneFrom? origin name = some entry) :
    entry ∈ snapshot.scenes := by
  rw [sceneFrom?] at found
  split at found
  · exact Option.some.inj found ▸ isOrigin
  · exact scene?_mem_scenes found

/-- A declaration that is exported by a scene, if there is one. -/
theorem exported_eq_some_iff {scene : Option SceneEntry} {table : SceneEntry → Option Occurrence}
    {declaration : Declaration} :
    (scene.bind fun target =>
        (table target).map fun occurrence => (⟨target, some occurrence⟩ : Declaration)) =
        some declaration ↔
      ∃ target occurrence, scene = some target ∧ table target = some occurrence ∧
        declaration = ⟨target, some occurrence⟩ := by
  simp only [Option.bind_eq_some_iff, Option.map_eq_some_iff]
  constructor
  · rintro ⟨target, isScene, occurrence, isExported, rfl⟩
    exact ⟨target, occurrence, isScene, isExported, rfl⟩
  · rintro ⟨target, occurrence, isScene, isExported, rfl⟩
    exact ⟨target, isScene, occurrence, isExported, rfl⟩

/-- What a name leads to is in the project. -/
theorem resolve?_mem_scenes {origin : SceneEntry} (isOrigin : origin ∈ snapshot.scenes)
    {symbol : Symbol} {declaration : Declaration}
    (resolved : snapshot.resolve? origin symbol = some declaration) :
    declaration.entry ∈ snapshot.scenes := by
  cases symbol with
  | var key =>
      rw [resolve?, resolveVariable?] at resolved
      split at resolved
      · exact Option.some.inj resolved ▸ isOrigin
      · obtain ⟨startup, _, startupEq, _, rfl⟩ := exported_eq_some_iff.1 resolved
        exact scene?_mem_scenes startupEq
  | achievement key =>
      rw [resolve?, resolveAchievement?] at resolved
      split at resolved
      · exact Option.some.inj resolved ▸ isOrigin
      · obtain ⟨startup, _, startupEq, _, rfl⟩ := exported_eq_some_iff.1 resolved
        exact scene?_mem_scenes startupEq
  | scene name =>
      obtain ⟨target, targetEq, rfl⟩ := Option.map_eq_some_iff.1 resolved
      exact sceneFrom?_mem_scenes isOrigin targetEq
  | label scene key =>
      obtain ⟨target, _, targetEq, _, rfl⟩ := exported_eq_some_iff.1 resolved
      exact sceneFrom?_mem_scenes isOrigin targetEq

theorem scenes_pairwise (filed : Filed snapshot.entries) :
    snapshot.scenes.Pairwise fun first second => first.uri < second.uri := by
  rw [scenes, values_eq_map_toList, List.pairwise_map]
  refine Std.TreeMap.ordered_keys_toList.imp_of_mem ?_
  rintro ⟨first, firstEntry⟩ ⟨second, secondEntry⟩ isFirst isSecond before
  have firstUri := filed first firstEntry
    (Std.TreeMap.mem_toList_iff_getElem?_eq_some.1 isFirst)
  have secondUri := filed second secondEntry
    (Std.TreeMap.mem_toList_iff_getElem?_eq_some.1 isSecond)
  rw [firstUri, secondUri]
  exact compareOfLessAndEq_eq_lt.1 before

end ProjectSnapshot

/-! ## The index and the projects in it -/

namespace ProjectIndex

theorem document?_snapshot (index : ProjectIndex) (path : String) (uri : Uri) :
    (index.snapshot path).document? uri =
      if Uri.project uri = path then index.get? uri else none := by
  rw [ProjectSnapshot.document?, snapshot]
  by_cases isIn : Uri.project uri = path
  · subst isIn
    rw [if_pos rfl, get?, Projects.scenesOf]
    cases index.projects[Uri.project uri]? <;> simp
  · rw [if_neg isIn, Option.eq_none_iff_forall_ne_some]
    intro entry found
    exact isIn (index.sound.scenesOf found).2

theorem filed_snapshot (index : ProjectIndex) (path : String) :
    Filed (index.snapshot path).entries :=
  fun _ _ found => (index.sound.scenesOf found).1

theorem filed_around (index : ProjectIndex) (document : Document) :
    Filed (index.around document).entries :=
  (index.filed_snapshot _).insert (.ofDocument document)

theorem get?_insert {index : ProjectIndex} {uri : Uri} (document : Document) :
    (index.insert document).get? uri =
      if uri = document.uri then some (.ofDocument document) else index.get? uri := by
  rw [get?, insert, Projects.getElem?_add]
  by_cases isOwn : uri = document.uri
  · subst isOwn
    have sameProject : Uri.project document.uri = (SceneEntry.ofDocument document).project := rfl
    rw [if_pos sameProject, if_pos rfl, Option.bind_some]
    exact Std.TreeMap.getElem?_insert_self
  · rw [if_neg isOwn]
    have different : compare (SceneEntry.ofDocument document).uri uri ≠ .eq :=
      fun same => isOwn (Std.LawfulEqCmp.compare_eq_iff_eq.1 same).symm
    split
    · rename_i sameProject
      rw [Option.bind_some, Std.TreeMap.getElem?_insert, if_neg different, ← sameProject]
      exact (index.document?_snapshot _ uri).trans (if_pos rfl)
    · rfl

theorem get?_insert_of_ne (index : ProjectIndex) {document : Document} {uri : Uri}
    (different : uri ≠ document.uri) : (index.insert document).get? uri = index.get? uri := by
  rw [get?_insert, if_neg different]

theorem get?_remove (index : ProjectIndex) (other uri : Uri) :
    (index.remove other).get? uri = if uri = other then none else index.get? uri := by
  rw [get?, remove, Projects.getElem?_remove]
  split
  · rename_i sameProject
    rw [get?]
    cases index.projects[Uri.project uri]? with
    | none => simp
    | some scenes =>
        -- a project that is dropped has no scene left that could have been found
        have found : (((some scenes).map (·.erase other)).filter (!·.isEmpty)).bind (·[uri]?) =
            (scenes.erase other)[uri]? := by
          rw [Option.map_some, Option.filter_some]
          split
          · rfl
          · rename_i dropped
            have isEmpty : (scenes.erase other).isEmpty = true := by
              rwa [Bool.not_eq_true', Bool.not_eq_false] at dropped
            exact (Std.TreeMap.getElem?_of_isEmpty isEmpty).symm
        rw [found, Std.TreeMap.getElem?_erase]
        simp only [Std.LawfulEqCmp.compare_eq_iff_eq, eq_comm (a := other), Option.bind_some]
  · rename_i otherProject
    exact (if_neg fun same => otherProject (congrArg Uri.project same)).symm

theorem get?_purge_of_notMem {index : ProjectIndex} {uris : List Uri} {uri : Uri}
    (notPurged : uri ∉ uris) : (index.purge uris).get? uri = index.get? uri := by
  induction uris generalizing index with
  | nil => rfl
  | cons other rest ih =>
      rw [List.mem_cons, not_or] at notPurged
      calc (index.purge (other :: rest)).get? uri
          = (index.remove other).get? uri := ih notPurged.2
        _ = index.get? uri := by rw [get?_remove, if_neg notPurged.1]

theorem hasProject_eq_false_iff {index : ProjectIndex} {path : String} :
    index.hasProject path = false ↔
      ∀ uri, Uri.project uri = path → index.get? uri = none := by
  rw [hasProject, Std.TreeMap.contains_eq_isSome_getElem?, Option.isSome_eq_false_iff,
    Option.isNone_iff_eq_none]
  constructor
  · rintro notThere uri rfl
    rw [get?, notThere, Option.bind_none]
  · intro nothing
    rw [Option.eq_none_iff_forall_ne_some]
    intro scenes isProject
    obtain ⟨uri, entry, found⟩ := index.sound.exists_scene isProject
    have uriProject := (index.sound.filed isProject found).2
    have notFound := nothing uri uriProject
    rw [get?, uriProject, isProject] at notFound
    exact Option.some_ne_none _ (found.symm.trans notFound)

/-- What a document sees under a URI: itself under its own, and elsewhere what is
indexed for its project. -/
theorem document?_around_eq (index : ProjectIndex) (document : Document) (uri : Uri) :
    (index.around document).document? uri =
      if uri = document.uri then some (.ofDocument document)
      else if Uri.project uri = Uri.project document.uri then index.get? uri
      else none := by
  rw [around, ProjectSnapshot.document?_withEntry, document?_snapshot]
  rfl

/-- No scene of another project is seen from a document. -/
theorem project_of_mem_around {index : ProjectIndex} {document : Document} {entry : SceneEntry}
    (isEntry : entry ∈ (index.around document).scenes) :
    entry.project = Uri.project document.uri := by
  obtain ⟨uri, found⟩ := ProjectSnapshot.mem_scenes_iff.1 isEntry
  have uriEq := index.filed_around document uri entry found
  rw [document?_around_eq] at found
  rw [SceneEntry.project, uriEq]
  split at found
  · rename_i isOwn
    rw [isOwn]
  · split at found
    · rename_i sameProject
      exact sameProject
    · simp at found

end ProjectIndex

end Gamebook
