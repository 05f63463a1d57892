import Gamebook.Project.Snapshot

/-!
# The project index

The index holds the scenes of every project: under the path of a project its scenes, by URI.  A
project is what the entries of one directory make up, so no scene of one project is ever seen from
another.  A project whose last scene goes is gone itself.
-/

namespace Gamebook

/-- Scenes by the path of their project and then by URI. -/
abbrev Projects := Std.TreeMap String (Std.TreeMap Uri SceneEntry)

namespace Projects

variable {projects : Projects}

/-- The scenes of a project; none when there is no such project. -/
def scenesOf (projects : Projects) (path : String) : Std.TreeMap Uri SceneEntry :=
  projects[path]?.getD {}

/-- The projects with an entry, which is filed under its own project. -/
def add (projects : Projects) (entry : SceneEntry) : Projects :=
  projects.insert entry.project ((projects.scenesOf entry.project).insert entry.uri entry)

/-- The projects without a document.  A project that is left without scenes is dropped. -/
def remove (projects : Projects) (uri : Uri) : Projects :=
  match projects[Uri.project uri]? with
  | none => projects
  | some scenes =>
      let rest := scenes.erase uri
      if rest.isEmpty then projects.erase (Uri.project uri)
      else projects.insert (Uri.project uri) rest

/-- Every project has scenes, and every scene is filed under its own URI in its own project. -/
structure Sound (projects : Projects) : Prop where
  notEmpty {path : String} {scenes : Std.TreeMap Uri SceneEntry} :
    projects[path]? = some scenes → scenes.isEmpty = false
  filed {path : String} {scenes : Std.TreeMap Uri SceneEntry} {uri : Uri} {entry : SceneEntry} :
    projects[path]? = some scenes → scenes[uri]? = some entry →
      entry.uri = uri ∧ Uri.project uri = path

theorem getElem?_add (projects : Projects) (entry : SceneEntry) (path : String) :
    (projects.add entry)[path]? =
      if path = entry.project then
        some ((projects.scenesOf entry.project).insert entry.uri entry)
      else projects[path]? := by
  simp only [add, Std.TreeMap.getElem?_insert, Std.LawfulEqCmp.compare_eq_iff_eq,
    eq_comm (a := path)]

theorem getElem?_remove (projects : Projects) (uri : Uri) (path : String) :
    (projects.remove uri)[path]? =
      if path = Uri.project uri then
        (projects[path]?.map (·.erase uri)).filter (!·.isEmpty)
      else projects[path]? := by
  unfold remove
  split
  · rename_i isNone
    split
    · rename_i same
      rw [same, isNone]
      rfl
    · rfl
  · rename_i scenes isSome
    by_cases same : path = Uri.project uri
    · subst same
      cases isEmpty : (scenes.erase uri).isEmpty <;>
        simp [isEmpty, isSome, Option.filter]
    · have different : Uri.project uri ≠ path := Ne.symm same
      simp only [if_neg same]
      split <;> simp [Std.TreeMap.getElem?_erase, Std.TreeMap.getElem?_insert, different]

namespace Sound

theorem empty : Sound {} := by
  constructor <;> simp

theorem scenesOf (sound : projects.Sound) {path : String} {uri : Uri} {entry : SceneEntry}
    (found : (projects.scenesOf path)[uri]? = some entry) :
    entry.uri = uri ∧ Uri.project uri = path := by
  unfold Projects.scenesOf at found
  cases isThere : projects[path]? with
  | none => simp [isThere] at found
  | some scenes =>
      rw [isThere, Option.getD_some] at found
      exact sound.filed isThere found

theorem exists_scene (sound : projects.Sound) {path : String}
    {scenes : Std.TreeMap Uri SceneEntry} (found : projects[path]? = some scenes) :
    ∃ (uri : Uri) (entry : SceneEntry), scenes[uri]? = some entry := by
  obtain ⟨uri, isUri⟩ := Std.TreeMap.isEmpty_eq_false_iff_exists_mem.1 (sound.notEmpty found)
  exact ⟨uri, Option.isSome_iff_exists.1 (Std.TreeMap.isSome_getElem?_iff_mem.2 isUri)⟩

/-- Adding keeps every scene in its own project. -/
theorem add (sound : projects.Sound) (entry : SceneEntry) : (projects.add entry).Sound := by
  constructor
  · intro path scenes found
    rw [getElem?_add] at found
    split at found
    · obtain rfl := Option.some.inj found
      exact Std.TreeMap.isEmpty_insert
    · exact sound.notEmpty found
  · intro path scenes uri other found isOther
    rw [getElem?_add] at found
    split at found
    · rename_i isOwn
      obtain rfl := Option.some.inj found
      simp only [Std.TreeMap.getElem?_insert, Std.LawfulEqCmp.compare_eq_iff_eq] at isOther
      split at isOther
      · rename_i same
        obtain rfl := Option.some.inj isOther
        exact ⟨same, by rw [← same, isOwn]; rfl⟩
      · rw [isOwn]
        exact sound.scenesOf isOther
    · exact sound.filed found isOther

/-- Removing leaves no project behind that has no scenes. -/
theorem remove (sound : projects.Sound) (uri : Uri) : (projects.remove uri).Sound := by
  constructor
  · intro path scenes found
    rw [getElem?_remove] at found
    split at found
    · simpa using (Option.filter_eq_some_iff.1 found).2
    · exact sound.notEmpty found
  · intro path scenes other entry found isEntry
    rw [getElem?_remove] at found
    split at found
    · obtain ⟨isThere, _⟩ := Option.filter_eq_some_iff.1 found
      obtain ⟨before, isBefore, rfl⟩ := Option.map_eq_some_iff.1 isThere
      rw [Std.TreeMap.getElem?_erase] at isEntry
      split at isEntry
      · simp at isEntry
      · exact sound.filed isBefore isEntry
    · exact sound.filed found isEntry

end Sound

end Projects

/-- Every indexed scene. -/
structure ProjectIndex where
  projects : Projects := {}
  sound : projects.Sound := by exact .empty

namespace ProjectIndex

def insert (index : ProjectIndex) (document : Document) : ProjectIndex :=
  ⟨index.projects.add (.ofDocument document), index.sound.add _⟩

def update (index : ProjectIndex) (documents : List Document) : ProjectIndex :=
  documents.foldl insert index

def remove (index : ProjectIndex) (uri : Uri) : ProjectIndex :=
  ⟨index.projects.remove uri, index.sound.remove uri⟩

def purge (index : ProjectIndex) (uris : List Uri) : ProjectIndex :=
  uris.foldl remove index

def get? (index : ProjectIndex) (uri : Uri) : Option SceneEntry :=
  index.projects[Uri.project uri]?.bind (·[uri]?)

def snapshot (index : ProjectIndex) (path : String) : ProjectSnapshot :=
  ⟨path, index.projects.scenesOf path⟩

/-- Whether a scene of the project is indexed. -/
def hasProject (index : ProjectIndex) (path : String) : Bool :=
  index.projects.contains path

def size (index : ProjectIndex) : Nat :=
  index.projects.foldl (fun count _ scenes => count + scenes.size) 0

def isEmpty (index : ProjectIndex) : Bool :=
  index.projects.isEmpty

/-- The project of a document with its current text. -/
def around (index : ProjectIndex) (document : Document) : ProjectSnapshot :=
  (index.snapshot document.uri.project).withEntry (.ofDocument document)

end ProjectIndex

end Gamebook
