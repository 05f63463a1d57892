import Std.Data.TreeSet
import Gamebook.Spelling.Dictionary

/-!
# The user's dictionary

Words the user has accepted, kept in a file of one word a line, or only in memory.  Adding a word
writes the file anew; when that fails the word is not kept, so that adding it again tries again.
-/

namespace Gamebook

/-- Words accepted by the user and the file they are kept in. -/
structure UserDictionary where
  /-- The file; none for a dictionary in memory. -/
  path : Option String := none
  words : Std.TreeSet String := {}

namespace UserDictionary

def inMemory : UserDictionary := {}

/-- Whether a word is in the dictionary, in whatever case it is written. -/
def contains (dictionary : UserDictionary) (word : String) : Bool :=
  dictionary.words.contains (lowerText word)

/-- The words of a file, one a line. -/
def wordsOfText (text : String) : Std.TreeSet String :=
  (Dictionary.textLines text).foldl
    (fun words line =>
      let word := trimChars line
      if word.isEmpty then words else words.insert (lowerText (String.ofList word)))
    {}

/-- The dictionary in a file; a missing file has no words. -/
def load (files : FileTree) (path : String) : Except DictionaryFailure UserDictionary :=
  match files.read ⟨path⟩ with
  | .ok text => .ok ⟨some path, wordsOfText text⟩
  | .error .notFound => .ok ⟨some path, {}⟩
  | .error .unreadable => .error .file

/-- The content of the file: the words in order, each with a line feed. -/
def render (dictionary : UserDictionary) : String :=
  String.join (dictionary.words.toList.map (· ++ "\n"))

def save (dictionary : UserDictionary) (files : FileTree) : WriteAttempt :=
  match dictionary.path with
  | none => ⟨files, true⟩
  | some path => files.put ⟨path⟩ (.text dictionary.render)

inductive Addition where
  | known
  | added (dictionary : UserDictionary) (files : FileTree)
  | failed (files : FileTree)

def add (dictionary : UserDictionary) (files : FileTree) (word : String) : Addition :=
  let key := lowerText word
  if dictionary.words.contains key then
    .known
  else
    let extended := { dictionary with words := dictionary.words.insert key }
    match extended.save files with
    | ⟨files, true⟩ => .added extended files
    | ⟨files, false⟩ => .failed files

end UserDictionary

end Gamebook
