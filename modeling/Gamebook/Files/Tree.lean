import Gamebook.Files.Path

/-!
# File trees

What the tools read from and write to a disk, as a value: files and directories by the way from the
root.  A path is followed name by name, and every name but the last has to be one of a directory.
A file whose bytes are not UTF-8 exists and cannot be read.
-/

namespace Gamebook

/-- What stands at a place. -/
inductive FileEntry where
  | text (content : String)
  | undecodable
  | directory
deriving DecidableEq, Repr

namespace FileEntry

def isFile : FileEntry → Bool
  | directory => false
  | _ => true

end FileEntry

inductive ReadFailure where
  | notFound
  | unreadable
deriving DecidableEq, Repr

/-- Files and directories by place; the root is always there. -/
structure FileTree where
  entries : List (Route × FileEntry) := []
  /-- Where paths start that are not absolute; none when that is not known. -/
  workingDirectory : Option Route := none
deriving DecidableEq, Repr

/-- The outcome of an attempt to write.  One that fails may leave directories behind. -/
structure WriteAttempt where
  files : FileTree
  succeeded : Bool
deriving DecidableEq, Repr

namespace FileTree

def get? (tree : FileTree) (route : Route) : Option FileEntry :=
  if route.isEmpty then some .directory else tree.entries.lookup route

/-- The tree with an entry at a place, whatever stood there. -/
def set (tree : FileTree) (route : Route) (entry : FileEntry) : FileTree :=
  { tree with entries := (route, entry) :: tree.entries.filter (·.1 != route) }

def erase (tree : FileTree) (route : Route) : FileTree :=
  { tree with entries := tree.entries.filter (·.1 != route) }

/-! ## Following paths -/

/-- The place where a path starts. -/
def start? (tree : FileTree) (path : FilePath) : Option Route :=
  if path.isAbsolute then some [] else tree.workingDirectory

/-- The place that names lead to.  At the last of them there need not be anything. -/
def walk (tree : FileTree) (here : Route) : List String → Except ReadFailure Route
  | [] => .ok here
  | name :: rest =>
      match tree.get? here with
      | some .directory =>
          if name.utf8ByteSize ≤ FilePath.longestName then tree.walk (here.step name) rest
          else .error .unreadable
      | some _ => .error .unreadable
      | none => .error .notFound

def resolve (tree : FileTree) (path : FilePath) : Except ReadFailure Route :=
  if path.isUsable then
    match tree.start? path with
    | some here => if path.text.isEmpty then .error .notFound else tree.walk here path.names
    | none => .error .notFound
  else
    .error .unreadable

def find (tree : FileTree) (path : FilePath) : Except ReadFailure FileEntry := do
  match tree.get? (← tree.resolve path) with
  | some entry =>
      if entry.isFile && path.endsInDirectory then .error .unreadable else .ok entry
  | none => .error .notFound

/-! ## Reading -/

def read (tree : FileTree) (path : FilePath) : Except ReadFailure String := do
  match ← tree.find path with
  | .text content => .ok content
  | _ => .error .unreadable

def names? (tree : FileTree) (path : FilePath) : Option (List String) := do
  let route ← (tree.resolve path).toOption
  if tree.get? route = some .directory then
    some ((tree.entries.filter fun item => item.1.dropLast == route && !item.1.isEmpty).filterMap
      (·.1.getLast?))
  else
    none

/-! ## Writing -/

/-- Makes the directories that names lead through, up to a name that leads nowhere. -/
def makeAlong (tree : FileTree) (here : Route) : List String → WriteAttempt
  | [] => ⟨tree, true⟩
  | name :: rest =>
      if name.utf8ByteSize ≤ FilePath.longestName then
        match tree.get? (here.step name) with
        | some .directory => tree.makeAlong (here.step name) rest
        | some _ => ⟨tree, false⟩
        | none => (tree.set (here.step name) .directory).makeAlong (here.step name) rest
      else
        ⟨tree, false⟩

/-- Makes a directory and every directory before it. -/
def makeDirectories (tree : FileTree) (path : FilePath) : WriteAttempt :=
  match path.isUsable, tree.start? path with
  | true, some here =>
      if path.staysAtEnd then
        let attempt := tree.makeAlong here path.names.dropLast
        ⟨attempt.files, attempt.succeeded && (attempt.files.find path).toOption == some .directory⟩
      else
        tree.makeAlong here path.names
  | _, _ => ⟨tree, false⟩

/-- Gives a file a new content.  Directories before it are made; a directory is never replaced. -/
def put (tree : FileTree) (path : FilePath) (entry : FileEntry) : WriteAttempt :=
  match path.parent? with
  | none => ⟨tree, false⟩
  | some parent =>
      match tree.makeDirectories parent with
      | ⟨tree, false⟩ => ⟨tree, false⟩
      | ⟨tree, true⟩ =>
          match tree.resolve path with
          | .error _ => ⟨tree, false⟩
          | .ok route =>
              if path.endsInDirectory || tree.get? route = some .directory then ⟨tree, false⟩
              else ⟨tree.set route entry, true⟩

/-- The tree without a regular file; none when there is no such file. -/
def remove? (tree : FileTree) (path : FilePath) : Option FileTree := do
  let route ← (tree.resolve path).toOption
  if !path.endsInDirectory && (tree.get? route).any (·.isFile) then some (tree.erase route)
  else none

/-! ## What writing does to reading -/

theorem get?_set (tree : FileTree) (route : Route) (entry : FileEntry)
    (notRoot : route ≠ []) : (tree.set route entry).get? route = some entry := by
  simp [get?, set, notRoot]

theorem lookup_filter_ne {route other : Route} (different : other ≠ route)
    (entries : List (Route × FileEntry)) :
    (entries.filter (·.1 != route)).lookup other = entries.lookup other := by
  induction entries with
  | nil => rfl
  | cons item rest ih =>
      obtain ⟨place, entry⟩ := item
      by_cases same : place = route
      · have elsewhere : (other == route) = false := beq_eq_false_iff_ne.mpr different
        simpa [same, List.lookup_cons, elsewhere] using ih
      · by_cases found : other == place <;> simp [same, List.lookup_cons, found, ih]

theorem get?_set_of_ne (tree : FileTree) {route other : Route} (entry : FileEntry)
    (different : other ≠ route) : (tree.set route entry).get? other = tree.get? other := by
  have elsewhere : (other == route) = false := beq_eq_false_iff_ne.mpr different
  simp [get?, set, List.lookup_cons, elsewhere, lookup_filter_ne different]

theorem walk_set (tree : FileTree) {route : Route} (entry : FileEntry)
    (noDirectory : tree.get? route ≠ some .directory) {names : List String} {here place : Route}
    (leads : tree.walk here names = .ok place) :
    (tree.set route entry).walk here names = .ok place := by
  induction names generalizing here with
  | nil => exact leads
  | cons name rest ih =>
      simp only [walk] at leads ⊢
      by_cases through : tree.get? here = some .directory
      · have different : here ≠ route := fun same => noDirectory (same ▸ through)
        rw [get?_set_of_ne tree entry different, through]
        simp only [through] at leads
        by_cases short : name.utf8ByteSize ≤ FilePath.longestName
        · simp only [short, if_true] at leads ⊢
          exact ih leads
        · simp [short] at leads
      · split at leads <;> simp_all

theorem resolve_set (tree : FileTree) {route place : Route} (entry : FileEntry)
    (noDirectory : tree.get? route ≠ some .directory) {path : FilePath}
    (leads : tree.resolve path = .ok place) : (tree.set route entry).resolve path = .ok place := by
  have start : (tree.set route entry).start? path = tree.start? path := rfl
  simp only [resolve, start] at leads ⊢
  by_cases usable : path.isUsable
  · simp only [usable, if_true] at leads ⊢
    cases begins : tree.start? path with
    | none => simp [begins] at leads
    | some here =>
        by_cases empty : path.text.isEmpty
        · simp [begins, empty] at leads
        · simp only [begins, empty] at leads ⊢
          exact walk_set tree entry noDirectory leads
  · simp [usable] at leads

/-- A file that has been written is read as it was written. -/
theorem read_put (tree : FileTree) (path : FilePath) (content : String)
    (written : (tree.put path (.text content)).succeeded = true) :
    (tree.put path (.text content)).files.read path = .ok content := by
  unfold put at written ⊢
  cases parent : path.parent? with
  | none => simp [parent] at written
  | some directory =>
      rcases attempt : tree.makeDirectories directory with ⟨made, succeeded⟩
      simp only [parent, attempt] at written ⊢
      cases succeeded with
      | false => simp at written
      | true =>
          cases leads : made.resolve path with
          | error failure => simp [leads] at written
          | ok route =>
              simp only [leads] at written ⊢
              by_cases refused :
                  (path.endsInDirectory || decide (made.get? route = some .directory)) = true
              · simp [refused] at written
              · rw [if_neg refused]
                obtain ⟨plain, free⟩ : path.endsInDirectory = false ∧
                    made.get? route ≠ some .directory := by simpa using refused
                have notRoot : route ≠ [] := fun root => free (by simp [root, get?])
                simp [read, find, resolve_set made _ free leads, get?_set made route _ notRoot,
                  plain, bind, Except.bind]

end FileTree

end Gamebook
