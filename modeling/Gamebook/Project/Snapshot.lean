import Std.Data.TreeSet
import Gamebook.Project.Entry
import Gamebook.Rules.Check

/-!
# Project snapshots

A snapshot holds the scenes of one project at the moment of a query, by URI.  The queried document
itself is laid over it, so that its current text counts even before it is indexed again.
-/

namespace Gamebook

/-- The scenes of one project. -/
structure ProjectSnapshot where
  path : String := ""
  entries : Std.TreeMap Uri SceneEntry := {}

namespace ProjectSnapshot

/-- The snapshot with an entry in the place of the one of the same URI. -/
def withEntry (snapshot : ProjectSnapshot) (entry : SceneEntry) : ProjectSnapshot :=
  { snapshot with entries := snapshot.entries.insert entry.uri entry }

def document? (snapshot : ProjectSnapshot) (uri : Uri) : Option SceneEntry :=
  snapshot.entries[uri]?

/-- Every entry, by URI. -/
def scenes (snapshot : ProjectSnapshot) : List SceneEntry :=
  snapshot.entries.values

def scene? (snapshot : ProjectSnapshot) (name : String) : Option SceneEntry :=
  snapshot.scenes.find? (·.name == name)

/-- The scene that declares what the whole game shares. -/
def startup? (snapshot : ProjectSnapshot) : Option SceneEntry :=
  snapshot.scene? startupScene

/-- The names of the scenes that exist, indexed or listed by the startup scene. -/
def sceneNames (snapshot : ProjectSnapshot) : Std.TreeSet String :=
  let listed := (snapshot.startup?.map (·.exports.sceneList)).getD []
  (snapshot.scenes.map (·.name) ++ listed).foldl (·.insert ·) {}

def scope (snapshot : ProjectSnapshot) : ProjectScope where
  knowsGlobals := snapshot.startup?.isSome
  hasGlobal key := snapshot.startup?.any (·.exports.globals.contains key)
  hasAchievement key := snapshot.startup?.any (·.exports.achievements.contains key)
  hasScene name := snapshot.sceneNames.contains name
  hasLabel? scene key := (snapshot.scene? scene).map (·.exports.labels.contains key)

end ProjectSnapshot

end Gamebook
