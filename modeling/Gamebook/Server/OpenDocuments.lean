import Std.Data.TreeMap
import Gamebook.Project.Document
import Gamebook.Server.TextChange

/-!
# Open documents

The documents that are open in the editor, by URI.  Their texts are the ones that count, whatever
is on disk.
-/

namespace Gamebook

structure OpenDocuments where
  documents : Std.TreeMap Uri Document := {}

namespace OpenDocuments

def get? (opened : OpenDocuments) (uri : Uri) : Option Document :=
  opened.documents[uri]?

def contains (opened : OpenDocuments) (uri : Uri) : Bool :=
  opened.documents.contains uri

/-- Opens a document, in the place of an open one of the same URI. -/
def insert (opened : OpenDocuments) (document : Document) : OpenDocuments :=
  ⟨opened.documents.insert document.uri document⟩

def erase (opened : OpenDocuments) (uri : Uri) : OpenDocuments :=
  ⟨opened.documents.erase uri⟩

/-- A document after some changes, in order. -/
def changed (document : Document) (version : Int) (changes : List TextChange) : Document :=
  document.edit version (String.ofList (changes.foldl TextChange.apply document.text.toList))

/-- Changes an open document; none when it is not open. -/
def change? (opened : OpenDocuments) (uri : Uri) (version : Int) (changes : List TextChange) :
    Option (OpenDocuments × Document) :=
  (opened.get? uri).map fun document =>
    let document := changed document version changes
    (opened.insert document, document)

def uris (opened : OpenDocuments) : List Uri :=
  opened.documents.keys

def size (opened : OpenDocuments) : Nat :=
  opened.documents.size

def isEmpty (opened : OpenDocuments) : Bool :=
  opened.documents.isEmpty

end OpenDocuments

end Gamebook
