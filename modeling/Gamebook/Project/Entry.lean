import Std.Data.TreeMap
import Gamebook.Project.Document

/-!
# Index entries

An entry of a project index is a scene and the names it makes visible to the other scenes.  Of
several declarations of one name the first counts.
-/

namespace Gamebook

/-- What a scene declares for the rest of its project, by key. -/
structure Exports where
  labels : Std.TreeMap String Occurrence := {}
  globals : Std.TreeMap String Occurrence := {}
  achievements : Std.TreeMap String Occurrence := {}
  /-- The rows of the scene list, in order. -/
  sceneList : List String := []

namespace Exports

/-- The exports with one more occurrence. -/
def add (exports : Exports) (occurrence : Occurrence) : Exports :=
  match occurrence.role with
  | .label => { exports with labels := exports.labels.insertIfNew occurrence.key occurrence }
  | .globalVariable _ =>
      { exports with globals := exports.globals.insertIfNew occurrence.key occurrence }
  | .achievement _ =>
      { exports with achievements := exports.achievements.insertIfNew occurrence.key occurrence }
  | .sceneReference true => { exports with sceneList := exports.sceneList ++ [occurrence.name] }
  | _ => exports

def ofScene (scene : Scene) : Exports :=
  scene.occurrences.foldl add {}

end Exports

structure SceneEntry where
  uri : Uri
  version : Int
  scene : Scene
  exports : Exports
  exports_eq : exports = Exports.ofScene scene

namespace SceneEntry

theorem ext_scene {first second : SceneEntry} (uriEq : first.uri = second.uri)
    (versionEq : first.version = second.version) (sceneEq : first.scene = second.scene) :
    first = second := by
  cases first with
  | mk _ _ _ _ firstExports =>
      cases second with
      | mk _ _ _ _ secondExports =>
          simp only at uriEq versionEq sceneEq
          subst uriEq versionEq sceneEq firstExports secondExports
          rfl

instance : DecidableEq SceneEntry := fun first second =>
  decidable_of_iff
    (first.uri = second.uri ∧ first.version = second.version ∧ first.scene = second.scene)
    ⟨fun ⟨uriEq, versionEq, sceneEq⟩ => ext_scene uriEq versionEq sceneEq,
      fun same => same ▸ ⟨rfl, rfl, rfl⟩⟩

def ofDocument (document : Document) : SceneEntry :=
  ⟨document.uri, document.version, document.scene, Exports.ofScene document.scene, rfl⟩

def name (entry : SceneEntry) : String :=
  entry.uri.sceneName

def project (entry : SceneEntry) : String :=
  entry.uri.project

end SceneEntry

end Gamebook
