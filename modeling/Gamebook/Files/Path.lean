import Gamebook.Text.Fragment

/-!
# Paths of files

A path is the text by which a file is named.  Slashes divide it into names; empty names and single
points lead nowhere, and two points lead back to the directory before.  Where a path leads depends
on what is on the disk, because only a directory can be gone through.
-/

namespace Gamebook

/-- The names on the way from the root to a place on the disk, none of which leads back. -/
abbrev Route := List String

structure FilePath where
  text : String
deriving DecidableEq, Repr

namespace FilePath

/-- The name that leads back. -/
def parentName : String := ".."

def isIdle (name : String) : Bool :=
  name == "" || name == "."

def parts (path : FilePath) : List String :=
  (Fragment.splitOn (· == '/') 0 path.text.toList).map (·.text)

def names (path : FilePath) : List String :=
  path.parts.filter (!isIdle ·)

/-- Whether the path starts at the root, and not at the working directory. -/
def isAbsolute (path : FilePath) : Bool :=
  path.text.toList.head? == some '/'

/-- Whether only a directory may be at the end, because the path goes on behind its last name. -/
def endsInDirectory (path : FilePath) : Bool :=
  path.parts.getLast?.any isIdle

/-- Whether the path stays at its end, which therefore has to be there already. -/
def staysAtEnd (path : FilePath) : Bool :=
  (path.parts.filter (· != "")).getLast? == some "."

def longestName : Nat := 255

def longestPath : Nat := 4095

/-- Whether a path can name anything at all. -/
def isUsable (path : FilePath) : Bool :=
  path.text.utf8ByteSize ≤ longestPath && !path.text.toList.contains '\x00'

/-- What a path begins with: the root, the working directory if it is written, or nothing. -/
def start (path : FilePath) : String :=
  if path.isAbsolute then "/"
  else if path.parts.head? == some "." then "./"
  else ""

/-- The path written without names that lead nowhere.  A point at the very begin stays. -/
def normal (path : FilePath) : FilePath :=
  ⟨path.start ++ "/".intercalate path.names⟩

/-- The path without its last name; none for a path without names. -/
def parent? (path : FilePath) : Option FilePath :=
  if path.names.isEmpty then none
  else some ⟨path.start ++ "/".intercalate path.names.dropLast⟩

end FilePath

namespace Route

/-- Where a name leads from a directory. -/
def step (here : Route) (name : String) : Route :=
  if name = FilePath.parentName then here.dropLast else here ++ [name]

/-- The places that names lead through, the first of which is the start. -/
def along (here : Route) : List String → List Route
  | [] => [here]
  | name :: rest => here :: along (here.step name) rest

def toPath (route : Route) : FilePath :=
  ⟨"/" ++ "/".intercalate route⟩

end Route

end Gamebook
