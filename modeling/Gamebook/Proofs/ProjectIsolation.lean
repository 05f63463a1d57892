import Gamebook.Proofs.ReferenceClasses
import Gamebook.Server.Workspace

/-!
# Answers depend on one project

What a document is told depends on the other entries of its project and on
nothing else in the index: neither on other projects nor on the entry that the
document itself had when it was last indexed.  The tree that holds the entries of
a snapshot may have another shape after another history, so snapshots are compared
by what is found in them, and every query is shown to see no more than that.
-/

namespace Gamebook

namespace ProjectSnapshot

/-- Two snapshots have the same entry under every URI. -/
def Alike (first second : ProjectSnapshot) : Prop :=
  ∀ uri, first.document? uri = second.document? uri

namespace Alike

variable {first second : ProjectSnapshot}

theorem scenes_eq (alike : first.Alike second) : first.scenes = second.scenes :=
  (Std.TreeMap.Equiv.of_forall_constGet?_eq alike).values_eq

theorem scene?_eq (alike : first.Alike second) : first.scene? = second.scene? := by
  funext name
  rw [scene?, scene?, alike.scenes_eq]

theorem startup?_eq (alike : first.Alike second) : first.startup? = second.startup? := by
  rw [startup?, startup?, alike.scene?_eq]

theorem sceneNames_eq (alike : first.Alike second) : first.sceneNames = second.sceneNames := by
  rw [sceneNames, sceneNames, alike.scenes_eq, alike.startup?_eq]

theorem scope_eq (alike : first.Alike second) : first.scope = second.scope := by
  rw [scope, scope, alike.startup?_eq, alike.sceneNames_eq, alike.scene?_eq]

theorem resolve?_eq (alike : first.Alike second) : first.resolve? = second.resolve? := by
  funext origin symbol
  cases symbol with
  | var key => rw [resolve?, resolve?, resolveVariable?, resolveVariable?, alike.startup?_eq]
  | achievement key =>
      rw [resolve?, resolve?, resolveAchievement?, resolveAchievement?, alike.startup?_eq]
  | scene name => rw [resolve?, resolve?, sceneFrom?, sceneFrom?, alike.scene?_eq]
  | label scene key => rw [resolve?, resolve?, sceneFrom?, sceneFrom?, alike.scene?_eq]

theorem references_eq (alike : first.Alike second) : first.references = second.references := by
  have refersTo_eq : first.refersTo = second.refersTo := by
    funext symbol target entry occurrence
    rw [refersTo, refersTo, alike.resolve?_eq]
  funext origin symbol
  rw [references, references, alike.resolve?_eq, alike.scenes_eq, refersTo_eq]

theorem symbolUnder?_eq (alike : first.Alike second) (uri : Uri) (position : Position) :
    first.symbolUnder? uri position = second.symbolUnder? uri position := by
  rw [symbolUnder?, symbolUnder?, alike]

theorem definition?_eq (alike : first.Alike second) (uri : Uri) (position : Position) :
    first.definition? uri position = second.definition? uri position := by
  rw [definition?, definition?, alike.symbolUnder?_eq, alike.resolve?_eq]

theorem referenceLocations?_eq (alike : first.Alike second) (uri : Uri) (position : Position)
    (includeDeclaration : Bool) :
    first.referenceLocations? uri position includeDeclaration =
      second.referenceLocations? uri position includeDeclaration := by
  rw [referenceLocations?, referenceLocations?, alike.symbolUnder?_eq, alike.references_eq]

theorem highlights?_eq (alike : first.Alike second) (uri : Uri) (position : Position) :
    first.highlights? uri position = second.highlights? uri position := by
  rw [highlights?, highlights?, alike.symbolUnder?_eq, alike.references_eq]

theorem hover?_eq (alike : first.Alike second) (uri : Uri) (position : Position) :
    first.hover? uri position = second.hover? uri position := by
  have symbolText?_eq : symbolText? first = symbolText? second := by
    funext entry symbol
    have sceneText?_eq : sceneText? first = sceneText? second := by
      funext name declaration
      cases declaration with
      | none => rw [sceneText?, sceneText?, alike.sceneNames_eq]
      | some found => rfl
    unfold symbolText?
    rw [alike.resolve?_eq, sceneText?_eq]
  rw [hover?, hover?, alike, symbolText?_eq]

theorem symbols?_eq (alike : first.Alike second) (uri : Uri) (includeGlobals : Bool) :
    first.symbols? uri includeGlobals = second.symbols? uri includeGlobals := by
  rw [symbols?, symbols?, alike, alike.startup?_eq]

theorem completionItems_eq (alike : first.Alike second) :
    first.completionItems = second.completionItems := by
  funext entry context
  cases context with
  | scene =>
      rw [completionItems, completionItems, sceneItems, sceneItems, alike.sceneNames_eq,
        alike.scene?_eq]
  | sceneLabel scene => rw [completionItems, completionItems, alike.scene?_eq]
  | var =>
      rw [completionItems, completionItems, visibleVariables, visibleVariables,
        alike.startup?_eq]
  | achievement =>
      rw [completionItems, completionItems, visibleAchievements, visibleAchievements,
        alike.startup?_eq]
  | _ => rfl

theorem complete?_eq (alike : first.Alike second) (uri : Uri) (position : Position) :
    first.complete? uri position = second.complete? uri position := by
  rw [complete?, complete?, alike, alike.completionItems_eq]

theorem folds?_eq (alike : first.Alike second) (uri : Uri) :
    first.folds? uri = second.folds? uri := by
  rw [folds?, folds?, alike]

end Alike

end ProjectSnapshot

theorem ProjectSnapshot.symbolUnder?_mem_scenes {snapshot : ProjectSnapshot} {uri : Uri}
    {position : Position} {origin : SceneEntry} {symbol : Symbol}
    (under : snapshot.symbolUnder? uri position = some (origin, symbol)) :
    origin ∈ snapshot.scenes := by
  obtain ⟨entry, documentEq, rest⟩ := Option.bind_eq_some_iff.1 under
  obtain ⟨occurrence, _, rest⟩ := Option.bind_eq_some_iff.1 rest
  obtain ⟨found, _, pairEq⟩ := Option.bind_eq_some_iff.1 rest
  obtain ⟨rfl, rfl⟩ : entry = origin ∧ found = symbol := by simpa using pairEq
  exact mem_scenes_iff.2 ⟨uri, documentEq⟩

theorem eq_of_nonEmpty?_eq_some {Item : Type} {items found : List Item}
    (foundEq : nonEmpty? items = some found) : found = items := by
  cases items with
  | nil => simp [nonEmpty?] at foundEq
  | cons _ _ => exact (Option.some.inj foundEq).symm

theorem ProjectIndex.around_alike {first second : ProjectIndex} {document : Document}
    (agree : ∀ uri, uri ≠ document.uri → Uri.project uri = Uri.project document.uri →
      first.get? uri = second.get? uri) :
    (first.around document).Alike (second.around document) := by
  intro uri
  rw [document?_around_eq, document?_around_eq]
  by_cases isOwn : uri = document.uri
  · rw [if_pos isOwn, if_pos isOwn]
  · rw [if_neg isOwn, if_neg isOwn]
    by_cases sameProject : Uri.project uri = Uri.project document.uri
    · rw [if_pos sameProject, if_pos sameProject, agree uri isOwn sameProject]
    · rw [if_neg sameProject, if_neg sameProject]

namespace Workspace

/-- Two workspaces give the same answer to every question about a document. -/
structure SameAnswers (first second : Workspace) (document : Document) : Prop where
  hover : ∀ position, first.hover? document position = second.hover? document position
  definition : ∀ position,
    first.definition? document position = second.definition? document position
  references : ∀ position includeDeclaration,
    first.references? document position includeDeclaration =
      second.references? document position includeDeclaration
  symbols : ∀ includeGlobals,
    first.symbols? document includeGlobals = second.symbols? document includeGlobals
  completion : ∀ position, first.complete? document position = second.complete? document position
  highlights : ∀ position,
    first.highlights? document position = second.highlights? document position
  folds : first.folds? document = second.folds? document
  diagnostics : ∀ files, (first.diagnose files document).2 = (second.diagnose files document).2

/-- Every location that a workspace tells a document is in the project of the
document. -/
structure StaysInProject (workspace : Workspace) (document : Document) : Prop where
  definition : ∀ position location, workspace.definition? document position = some location →
    Uri.project location.uri = Uri.project document.uri
  references : ∀ position includeDeclaration locations,
    workspace.references? document position includeDeclaration = some locations →
      ∀ location ∈ locations, Uri.project location.uri = Uri.project document.uri
  symbols : ∀ includeGlobals symbols, workspace.symbols? document includeGlobals = some symbols →
    ∀ symbol ∈ symbols, Uri.project symbol.location.uri = Uri.project document.uri

/-! ## Diagnostics -/

theorem settings_withSpelling (workspace : Workspace) (files : FileTree) :
    (workspace.withSpelling files).settings = workspace.settings := by
  unfold withSpelling
  simp only
  split <;> rfl

theorem index_withSpelling (workspace : Workspace) (files : FileTree) :
    (workspace.withSpelling files).index = workspace.index := by
  unfold withSpelling
  simp only
  split <;> rfl

theorem checker?_eq_some {workspace : Workspace} {checker : SpellChecker}
    (found : workspace.checker? = some checker) :
    workspace.settings.diagnostics.spelling.enabled = true ∧
      workspace.spelling.checker = some checker := by
  unfold checker? at found
  split at found
  · exact ⟨‹_›, found⟩
  · simp at found

theorem checker?_withSpelling_eq {first second : Workspace}
    (sameOptions : first.settings.diagnostics.spelling = second.settings.diagnostics.spelling)
    (sameSpelling : first.spelling = second.spelling)
    (sameDirectory : first.configDirectory = second.configDirectory) (files : FileTree) :
    (first.withSpelling files).checker? = (second.withSpelling files).checker? := by
  rw [checker?, checker?, settings_withSpelling, settings_withSpelling, sameOptions]
  unfold withSpelling
  simp only [sameOptions]
  split
  · rw [sameSpelling, sameDirectory]
  · rfl

theorem diagnose_eq {first second : Workspace} {document : Document}
    (sameSettings : first.settings = second.settings)
    (sameSpelling : first.spelling = second.spelling)
    (sameDirectory : first.configDirectory = second.configDirectory)
    (alike : (first.around document).Alike (second.around document)) (files : FileTree) :
    (first.diagnose files document).2 = (second.diagnose files document).2 := by
  have sameOptions : first.settings.diagnostics.spelling = second.settings.diagnostics.spelling :=
    congrArg (·.diagnostics.spelling) sameSettings
  have sameChecker := checker?_withSpelling_eq sameOptions sameSpelling sameDirectory files
  have sameScope : ((first.withSpelling files).around document).scope =
      ((second.withSpelling files).around document).scope := by
    rw [around, around, index_withSpelling, index_withSpelling]
    exact alike.scope_eq
  simp only [diagnose, reports, settings_withSpelling, sameSettings, sameChecker, sameScope]

/-! ## Locations -/

theorem staysInProject (workspace : Workspace) (document : Document) :
    workspace.StaysInProject document := by
  have inProject {entry : SceneEntry} (isEntry : entry ∈ (workspace.around document).scenes) :
      Uri.project entry.uri = Uri.project document.uri :=
    ProjectIndex.project_of_mem_around isEntry
  constructor
  · intro position location found
    obtain ⟨⟨origin, symbol⟩, under, rest⟩ := Option.bind_eq_some_iff.1 found
    obtain ⟨declaration, resolved, locationEq⟩ := Option.bind_eq_some_iff.1 rest
    obtain rfl := Option.some.inj locationEq
    have isOrigin := ProjectSnapshot.symbolUnder?_mem_scenes under
    exact inProject (ProjectSnapshot.resolve?_mem_scenes isOrigin resolved)
  · intro position includeDeclaration locations found location isLocation
    obtain ⟨⟨origin, symbol⟩, _, listed⟩ := Option.bind_eq_some_iff.1 found
    rw [eq_of_nonEmpty?_eq_some listed] at isLocation
    obtain ⟨site, isKept, rfl⟩ := List.mem_map.1 isLocation
    have isReference := (List.mem_filter.1 isKept).1
    exact inProject (ProjectSnapshot.mem_references_iff.1 isReference).1
  · intro includeGlobals symbols found symbol isSymbol
    obtain ⟨entry, documentEq, listed⟩ := Option.bind_eq_some_iff.1 found
    rw [eq_of_nonEmpty?_eq_some listed] at isSymbol
    rcases List.mem_append.1 isSymbol with isOwn | isShared
    · obtain ⟨declared, _, rfl⟩ := List.mem_map.1 isOwn
      exact inProject (ProjectSnapshot.mem_scenes_iff.2 ⟨document.uri, documentEq⟩)
    · split at isShared
      · rename_i startup startupEq
        split at isShared
        · obtain ⟨declared, _, rfl⟩ := List.mem_map.1 isShared
          exact inProject (ProjectSnapshot.scene?_mem_scenes startupEq)
        · simp at isShared
      · simp at isShared

/-- Workspaces with the same settings and dictionaries whose indexes agree on the
other documents of a project give the same answers about a document of it, and no
answer points out of the project. -/
theorem answers_depend_on_project (first second : Workspace) (document : Document)
    (sameSettings : first.settings = second.settings)
    (sameSpelling : first.spelling = second.spelling)
    (sameDirectory : first.configDirectory = second.configDirectory)
    (agree : ∀ uri, uri ≠ document.uri → Uri.project uri = Uri.project document.uri →
      first.index.get? uri = second.index.get? uri) :
    first.SameAnswers second document ∧ first.StaysInProject document ∧
      second.StaysInProject document := by
  have alike : (first.around document).Alike (second.around document) :=
    ProjectIndex.around_alike agree
  refine ⟨?_, first.staysInProject document, second.staysInProject document⟩
  exact
    { hover := alike.hover?_eq document.uri
      definition := alike.definition?_eq document.uri
      references := alike.referenceLocations?_eq document.uri
      symbols := alike.symbols?_eq document.uri
      completion := alike.complete?_eq document.uri
      highlights := alike.highlights?_eq document.uri
      folds := alike.folds?_eq document.uri
      diagnostics := diagnose_eq sameSettings sameSpelling sameDirectory alike }

/-- An index with a scene of another project and an old text of a document, and one
without the two: the document is told the same. -/
theorem answers_without_foreign_and_stale :
    let document := Document.ofText "file:///game/chapter.txt" 2 "*set gold 1"
    let startup := Document.ofText "file:///game/startup.txt" 1 "*create gold 0"
    let foreign := Document.ofText "file:///other/startup.txt" 1 "*create silver 0"
    let stale := Document.ofText "file:///game/chapter.txt" 1 "*temp gold 5"
    let first : Workspace := { index := ProjectIndex.update {} [startup, foreign, stale] }
    let second : Workspace :=
      { index := (ProjectIndex.update {} [startup, foreign]).purge [foreign.uri] }
    (∀ uri, uri ≠ document.uri → Uri.project uri = Uri.project document.uri →
      first.index.get? uri = second.index.get? uri) ∧
    first.SameAnswers second document := by
  intro document startup foreign stale first second
  have agree : ∀ uri, uri ≠ document.uri → Uri.project uri = Uri.project document.uri →
      first.index.get? uri = second.index.get? uri := by
    intro uri different sameProject
    have notForeign : uri ≠ foreign.uri := by
      rintro rfl
      exact absurd sameProject (by decide +kernel)
    have purged : uri ∉ [foreign.uri] := by simpa using notForeign
    have notStale : uri ≠ stale.uri := different
    have firstEq : first.index = (ProjectIndex.update {} [startup, foreign]).insert stale := rfl
    rw [firstEq, ProjectIndex.get?_insert_of_ne _ notStale,
      ProjectIndex.get?_purge_of_notMem purged]
  -- said of any two indexes, so that these two are not compared
  have sameSettings (one two : ProjectIndex) :
      Workspace.settings { index := one } = Workspace.settings { index := two } := rfl
  exact ⟨agree,
    (answers_depend_on_project first second document (sameSettings _ _) rfl rfl agree).1⟩

end Workspace

end Gamebook
