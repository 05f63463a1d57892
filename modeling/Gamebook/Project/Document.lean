import Gamebook.Project.Uri
import Gamebook.Script.Scene

/-!
# Documents

A document is the text of a scene file at one version, together with the scene read from it.
-/

namespace Gamebook

/-- The identifier of the language that documents are written in. -/
def languageId : String := "choicescript"

/-- The text of a scene file at one version. -/
structure Document where
  uri : Uri
  language : String
  version : Int
  text : String
  scene : Scene
  scene_eq : scene = Scene.parse text

namespace Document

def ofText (uri : Uri) (version : Int) (text : String) (language : String := languageId) :
    Document :=
  ⟨uri, language, version, text, Scene.parse text, rfl⟩

def edit (document : Document) (version : Int) (text : String) : Document :=
  ofText document.uri version text document.language

end Document

end Gamebook
