import Gamebook.Project.Index
import Gamebook.Project.Symbol

/-!
# Looking up what a scene declares

A scene is asked for its declarations in two ways: by a search through its
occurrences, and through the tables of its index entry.  Both find the first
declaration of a name, because a table keeps what it has.  The names of the
scenes of a project are those that are indexed or listed by its startup scene.
-/

namespace Gamebook

theorem Occurrence.key_eq_toLower {occurrence : Occurrence}
    (ignoresCase : occurrence.kind.ignoresCase = true) :
    occurrence.key = occurrence.name.toLower := by
  rw [Occurrence.key, if_pos ignoresCase]

/-! ## Tables -/

/-- Whether declarations of the kind are kept in a table. -/
def OccurrenceKind.isExported : OccurrenceKind → Bool
  | label | globalVariable | achievement => true
  | _ => false

namespace Exports

/-- The table of the declarations of a kind. -/
def table (exports : Exports) : OccurrenceKind → Std.TreeMap String Occurrence
  | .label => exports.labels
  | .globalVariable => exports.globals
  | .achievement => exports.achievements
  | _ => {}

theorem table_add (exports : Exports) (occurrence : Occurrence) {kind : OccurrenceKind}
    (isExported : kind.isExported = true) :
    (exports.add occurrence).table kind =
      if occurrence.kind = kind then
        (exports.table kind).insertIfNew occurrence.key occurrence
      else
        exports.table kind := by
  cases roleEq : occurrence.role with
  | sceneReference listed =>
      cases listed <;> cases kind <;>
        simp_all [add, table, Occurrence.kind, Role.kind, OccurrenceKind.isExported]
  | _ =>
      cases kind <;>
        simp_all [add, table, Occurrence.kind, Role.kind, OccurrenceKind.isExported]

theorem getElem?_table_add (exports : Exports) (occurrence : Occurrence)
    {kind : OccurrenceKind} (isExported : kind.isExported = true) (key : String) :
    ((exports.add occurrence).table kind)[key]? =
      (exports.table kind)[key]?.or
        (if occurrence.kind == kind && occurrence.key == key then some occurrence
          else none) := by
  rw [table_add exports occurrence isExported]
  by_cases sameKind : occurrence.kind = kind
  · rw [if_pos sameKind, Std.TreeMap.getElem?_insertIfNew]
    by_cases sameKey : occurrence.key = key
    · subst sameKey
      cases present : (exports.table kind)[occurrence.key]? with
      | none =>
          have absent : occurrence.key ∉ exports.table kind :=
            fun isMember => by simp [Std.TreeMap.mem_iff_isSome_getElem?, present] at isMember
          simp [absent, sameKind]
      | some found =>
          have isMember : occurrence.key ∈ exports.table kind :=
            Std.TreeMap.mem_iff_isSome_getElem?.2 (by simp [present])
          simp [isMember]
    · simp [sameKey]
  · simp [sameKind]

/-- A table keeps its first declaration of a name, and takes the next one only if
it has none. -/
theorem getElem?_table_foldl (occurrences : List Occurrence) (exports : Exports)
    {kind : OccurrenceKind} (isExported : kind.isExported = true) (key : String) :
    ((occurrences.foldl add exports).table kind)[key]? =
      (exports.table kind)[key]?.or
        (occurrences.find? fun occurrence =>
          occurrence.kind == kind && occurrence.key == key) := by
  induction occurrences generalizing exports with
  | nil => simp
  | cons occurrence rest ih =>
      rw [List.foldl_cons, ih, getElem?_table_add exports occurrence isExported,
        Option.or_assoc, List.find?_cons]
      cases occurrence.kind == kind && occurrence.key == key <;> simp

theorem sceneList_foldl (occurrences : List Occurrence) (exports : Exports) :
    (occurrences.foldl add exports).sceneList =
      exports.sceneList ++ (occurrences.filter (·.isListed)).map (·.name) := by
  induction occurrences generalizing exports with
  | nil => simp
  | cons occurrence rest ih =>
      rw [List.foldl_cons, ih]
      cases roleEq : occurrence.role with
      | sceneReference listed =>
          cases listed <;> simp [add, roleEq, Occurrence.isListed]
      | _ => simp [add, roleEq, Occurrence.isListed]

/-- The tables of a scene and a search through it find the same. -/
theorem getElem?_table_ofScene (scene : Scene) (key : String) (kind : OccurrenceKind)
    (isExported : kind.isExported = true) :
    ((ofScene scene).table kind)[key]? = scene.findDeclaration? kind key := by
  have empty : (({} : Exports).table kind)[key]? = none := by
    cases kind <;> simp [table]
  rw [ofScene, getElem?_table_foldl _ _ isExported, empty, Option.none_or]
  rfl

end Exports

/-! ## Entries -/

namespace SceneEntry

variable (entry : SceneEntry) (key : String)

theorem getElem?_table (kind : OccurrenceKind) (isExported : kind.isExported = true) :
    (entry.exports.table kind)[key]? = entry.scene.findDeclaration? kind key := by
  rw [entry.exports_eq]
  exact Exports.getElem?_table_ofScene entry.scene key kind isExported

theorem getElem?_labels :
    entry.exports.labels[key]? = entry.scene.findDeclaration? .label key :=
  entry.getElem?_table key .label rfl

theorem getElem?_achievements :
    entry.exports.achievements[key]? = entry.scene.findDeclaration? .achievement key :=
  entry.getElem?_table key .achievement rfl

theorem exports_sceneList :
    entry.exports.sceneList = entry.scene.sceneList.map (·.name) := by
  rw [entry.exports_eq, Exports.ofScene, Exports.sceneList_foldl]
  rfl

end SceneEntry

/-! ## Snapshots -/

theorem mem_foldl_insert {names : List String} {seen : Std.TreeSet String} {name : String} :
    name ∈ names.foldl (·.insert ·) seen ↔ name ∈ seen ∨ name ∈ names := by
  induction names generalizing seen with
  | nil => simp
  | cons first rest ih =>
      rw [List.foldl_cons, ih, Std.TreeSet.mem_insert, Std.LawfulEqCmp.compare_eq_iff_eq,
        List.mem_cons, eq_comm, or_comm (a := name = first), or_assoc]

namespace ProjectSnapshot

theorem scene?_isSome_iff {snapshot : ProjectSnapshot} {name : String} :
    (snapshot.scene? name).isSome = true ↔ ∃ entry ∈ snapshot.scenes, entry.name = name := by
  simp [scene?, List.find?_isSome]

theorem contains_sceneNames_iff {snapshot : ProjectSnapshot} {name : String} :
    snapshot.sceneNames.contains name = true ↔
      (snapshot.scene? name).isSome = true ∨
        ∃ startup, snapshot.startup? = some startup ∧
          name ∈ startup.scene.sceneList.map (·.name) := by
  rw [Std.TreeSet.contains_iff_mem, sceneNames, mem_foldl_insert, scene?_isSome_iff]
  cases startupEq : snapshot.startup? with
  | none => simp
  | some startup => simp [startup.exports_sceneList]

end ProjectSnapshot

/-- The document that is asked about counts with its current text. -/
theorem ProjectIndex.document?_around (index : ProjectIndex) (document : Document) :
    (index.around document).document? document.uri = some (.ofDocument document) := by
  simp [around, ProjectSnapshot.document?, ProjectSnapshot.withEntry, SceneEntry.ofDocument]

end Gamebook
