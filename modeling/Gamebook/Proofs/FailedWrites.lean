import Gamebook.Proofs.DirectoryListing

/-!
# Writes that fail

A write makes the directories before a file, puts the new content beside the file and moves it
there.  When a step fails the directories that have been made stay, but nothing else has changed:
a path that led to a file leads to the same file, and a path that led to none still does, because
a write that opens the way to a file does not fail.
-/

namespace Gamebook

namespace FilePath

variable {path parent : FilePath}

end FilePath

/-- The regular file that a path leads to. -/
def FileTree.fileAt? (tree : FileTree) (path : FilePath) : Option FileEntry :=
  (tree.find path).toOption.filter (·.isFile)

/-- Directories have been made where nothing was, and nothing else has changed. -/
structure FileTree.Grows (tree later : FileTree) : Prop where
  workingDirectory : later.workingDirectory = tree.workingDirectory
  get? : ∀ route, later.get? route = tree.get? route ∨
    tree.get? route = none ∧ later.get? route = some .directory

namespace FileTree

variable {tree later : FileTree} {path : FilePath} {entry : FileEntry}

theorem find_eq_ok_iff :
    tree.find path = .ok entry ↔
      ∃ place, tree.resolve path = .ok place ∧ tree.get? place = some entry ∧
        (entry.isFile = true → path.endsInDirectory = false) := by
  unfold find
  cases placeEq : tree.resolve path with
  | error failure => simp [bind, Except.bind]
  | ok place =>
      cases entryEq : tree.get? place with
      | none => simp [bind, Except.bind, entryEq]
      | some found =>
          by_cases refused : (found.isFile && path.endsInDirectory) = true
          · have isRefused := Bool.and_eq_true_iff.1 refused
            simp only [bind, Except.bind, entryEq, refused, if_true, reduceCtorEq, false_iff]
            rintro ⟨_, placeIs, entryIs, plain⟩
            obtain rfl := Except.ok.inj placeIs
            obtain rfl := Option.some.inj (entryEq.symm.trans entryIs)
            simp [plain isRefused.1] at isRefused
          · simp only [bind, Except.bind, entryEq, refused]
            constructor
            · intro same
              obtain rfl := Except.ok.inj same
              exact ⟨place, rfl, entryEq, by simpa using refused⟩
            · rintro ⟨_, placeIs, entryIs, _⟩
              obtain rfl := Except.ok.inj placeIs
              rw [entryEq] at entryIs
              exact congrArg Except.ok (Option.some.inj entryIs)

theorem fileAt?_eq_some_iff :
    tree.fileAt? path = some entry ↔
      entry.isFile = true ∧ path.endsInDirectory = false ∧
        ∃ place, tree.resolve path = .ok place ∧ tree.get? place = some entry := by
  have findIff : (tree.find path).toOption = some entry ↔ tree.find path = .ok entry := by
    cases tree.find path <;> simp [Except.toOption]
  rw [fileAt?, Option.filter_eq_some_iff, findIff, find_eq_ok_iff]
  constructor
  · rintro ⟨⟨place, leads, entryEq, plain⟩, isFile⟩
    exact ⟨isFile, plain isFile, place, leads, entryEq⟩
  · rintro ⟨isFile, plain, place, leads, entryEq⟩
    exact ⟨⟨place, leads, entryEq, fun _ => plain⟩, isFile⟩

theorem read_eq_ok_iff {text : String} :
    tree.read path = .ok text ↔ tree.fileAt? path = some (.text text) := by
  unfold read fileAt?
  cases found : tree.find path with
  | error failure => simp [bind, Except.bind, Except.toOption]
  | ok entry => cases entry <;> simp [bind, Except.bind, Except.toOption, FileEntry.isFile]

namespace Grows

theorem refl (tree : FileTree) : tree.Grows tree :=
  ⟨rfl, fun _ => .inl rfl⟩

theorem trans {last : FileTree} (first : tree.Grows later) (second : later.Grows last) :
    tree.Grows last := by
  refine ⟨second.workingDirectory.trans first.workingDirectory, fun route => ?_⟩
  rcases second.get? route with same | ⟨wasNone, isMade⟩
  · rw [same]
    exact first.get? route
  · rcases first.get? route with same | ⟨_, wasMade⟩
    · exact .inr ⟨same ▸ wasNone, isMade⟩
    · simp [wasNone] at wasMade

theorem get?_file_iff (grows : tree.Grows later) (isFile : entry.isFile = true) {route : Route} :
    later.get? route = some entry ↔ tree.get? route = some entry := by
  rcases grows.get? route with same | ⟨wasNone, isMade⟩
  · rw [same]
  · have notDirectory : FileEntry.directory ≠ entry := by
      rintro rfl
      cases isFile
    simp [wasNone, isMade, notDirectory]

theorem walk (grows : tree.Grows later) {names : List String} {here place : Route}
    (leads : tree.walk here names = .ok place) : later.walk here names = .ok place := by
  induction names generalizing here with
  | nil => exact leads
  | cons name rest ih =>
      obtain ⟨isDirectory, isShort, leadsOn⟩ := walk_cons_eq_ok_iff.1 leads
      refine walk_cons_eq_ok_iff.2 ⟨?_, isShort, ih leadsOn⟩
      rcases grows.get? here with same | ⟨wasNone, _⟩
      · rw [same, isDirectory]
      · simp [wasNone] at isDirectory

theorem resolve (grows : tree.Grows later) {place : Route} (leads : tree.resolve path = .ok place) :
    later.resolve path = .ok place := by
  obtain ⟨isUsable, notEmpty, here, startEq, walks⟩ := resolve_eq_ok_iff.1 leads
  refine resolve_eq_ok_iff.2 ⟨isUsable, notEmpty, here, ?_, grows.walk walks⟩
  rw [← startEq, start?, start?, grows.workingDirectory]

theorem fileAt? (grows : tree.Grows later) (isThere : tree.fileAt? path = some entry) :
    later.fileAt? path = some entry := by
  obtain ⟨isFile, plain, place, leads, entryEq⟩ := fileAt?_eq_some_iff.1 isThere
  exact fileAt?_eq_some_iff.2
    ⟨isFile, plain, place, grows.resolve leads, (grows.get?_file_iff isFile).2 entryEq⟩

end Grows

end FileTree

end Gamebook
