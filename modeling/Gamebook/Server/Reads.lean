import Gamebook.Server.Connection

/-!
# What a connection reads from disk

Before a message is handled, the files it may need are brought together.  They are the word lists
that the settings name, the directory of a document that is opened, and the files that are closed
or have changed.
-/

namespace Gamebook

structure Reads where
  files : List FilePath := []
  /-- Directories whose scene files may be read. -/
  directories : List FilePath := []
deriving DecidableEq, Repr

namespace Reads

def append (first second : Reads) : Reads :=
  ⟨first.files ++ second.files, first.directories ++ second.directories⟩

def ofOptions (options : SpellingOptions) (configDirectory : Option String) : Reads where
  files := (options.dictionaryPath.toList ++
    (options.userDictionaryPath.or (configDirectory.map defaultUserDictionary)).toList).map (⟨·⟩)

def ofEvent (configDirectory : Option String) : ClientEvent → Reads
  | .opened document => { directories := ((Uri.path? document.uri).bind (·.parent?)).toList }
  | .closed uri => { files := (Uri.path? uri).toList }
  | .filesChanged changes => { files := changes.filterMap fun change => Uri.path? change.uri }
  | .configured settings =>
      match Settings.ofJson? settings with
      | some settings => ofOptions settings.diagnostics.spelling configDirectory
      | none => {}
  | _ => {}

def ofSession (session : Session) : Reads :=
  ofOptions session.workspace.settings.diagnostics.spelling session.workspace.configDirectory

end Reads

def Reads.ofMessage (session : Session) : Message → Reads
  | .notification method params =>
      ((ClientEvent.ofNotification? method params).map
        (ofEvent session.workspace.configDirectory)).getD {}
  | _ => {}

/-- What a connection needs to handle a message, or the passing of time. -/
def Connection.reads (connection : Connection) (message : Option Message) : Reads :=
  match connection with
  | .running session =>
      (Reads.ofSession session).append ((message.map (Reads.ofMessage session)).getD {})
  | _ => {}

/-- What a tree has that an earlier one has not, the oldest first. -/
def FileTree.writesSince (tree earlier : FileTree) : List (Route × FileEntry) :=
  (tree.entries.filter fun item => !earlier.entries.contains item).reverse

end Gamebook
