import Gamebook.Files.Tree
import Gamebook.Proofs.SourceLines

/-!
# Directories and the files in them

A path that ends in a name leads into the directory before the name.  The directory may
be written with names that lead nowhere, which its normal form leaves out; both lead to
the same place, and a file that can be read is listed there.
-/

namespace Gamebook

theorem Fragment.map_chars_splitOn (isBorder : Char → Bool) (start : Nat) (text : List Char) :
    (splitOn isBorder start text).map (·.chars) = text.splitOnP isBorder := by
  induction text generalizing start with
  | nil => rfl
  | cons char rest ih =>
      rw [List.splitOnP_cons_eq_if_modifyHead, ← ih (start + char.utf8Size)]
      by_cases border : isBorder char = true
      · simp [splitOn, border]
      · obtain ⟨first, others, restEq⟩ :=
          exists_splitOn_eq_cons isBorder (start + char.utf8Size) rest
        rw [splitOn_cons_of_not_border (by simpa using border) restEq, restEq]
        simp [border]

namespace FilePath

variable {path : FilePath}

theorem parts_eq (path : FilePath) :
    path.parts = (path.text.toList.splitOn '/').map String.ofList := by
  rw [List.splitOn_eq_splitOnP, ← Fragment.map_chars_splitOn _ 0, List.map_map]
  rfl

theorem parts_ne_nil (path : FilePath) : path.parts ≠ [] := by
  simp [parts_eq, List.splitOn_ne_nil]

theorem parts_append (directory rest : String) :
    parts ⟨directory ++ "/" ++ rest⟩ = parts ⟨directory⟩ ++ parts ⟨rest⟩ := by
  have charsEq : (directory ++ "/" ++ rest).toList =
      directory.toList ++ '/' :: rest.toList := by simp
  rw [parts_eq, parts_eq, parts_eq, charsEq, List.splitOn_append_cons_self, List.map_append]

theorem parts_of_plain {name : String} (plain : '/' ∉ name.toList) : parts ⟨name⟩ = [name] := by
  rw [parts_eq, List.splitOn_eq_singleton plain]
  simp

theorem names_append (directory rest : String) :
    names ⟨directory ++ "/" ++ rest⟩ = names ⟨directory⟩ ++ names ⟨rest⟩ := by
  rw [names, parts_append, List.filter_append]
  rfl

theorem not_mem_of_mem_parts {part : String} (isPart : part ∈ path.parts) :
    '/' ∉ part.toList := by
  obtain ⟨fragment, isFragment, rfl⟩ := List.mem_map.1 isPart
  intro isSlash
  have notBorder := Fragment.not_border_of_mem_splitOn isFragment
    (by simpa [Fragment.text] using isSlash)
  simp at notBorder

theorem parts_intercalate {parts : List String} (plain : ∀ part ∈ parts, '/' ∉ part.toList)
    (notEmpty : parts ≠ []) : FilePath.parts ⟨"/".intercalate parts⟩ = parts := by
  have charsEq : ("/".intercalate parts).toList =
      ['/'].intercalate (parts.map String.toList) := String.toList_intercalate
  have plainChars : ∀ chars ∈ parts.map String.toList, '/' ∉ chars := by simpa using plain
  rw [parts_eq, charsEq, List.splitOn_intercalate '/' plainChars (by simpa using notEmpty),
    List.map_map]
  simp

theorem isAbsolute_iff {first : String} {others : List String} (notEmpty : path.text ≠ "")
    (partsEq : path.parts = first :: others) : path.isAbsolute = true ↔ first = "" := by
  rw [parts_eq] at partsEq
  unfold isAbsolute
  cases charsEq : path.text.toList with
  | nil => exact absurd (String.toList_eq_nil_iff.1 charsEq) notEmpty
  | cons char rest =>
      rw [charsEq, List.splitOn_cons_eq_if_modifyHead] at partsEq
      by_cases isSlash : char = '/'
      · simp [isSlash] at partsEq
        simp [isSlash, partsEq.1]
      · obtain ⟨part, parts, restEq⟩ :=
          List.exists_cons_of_ne_nil (List.splitOn_ne_nil '/' rest)
        simp [isSlash, restEq] at partsEq
        simp [isSlash, ← partsEq.1]

/-- A path in normal form: its first part stays if it says where the path starts. -/
theorem normal_cases (notEmpty : path.text ≠ "") :
    ∃ first others, path.parts = first :: others ∧
      (isIdle first = true ∧ path.normal.text =
          first ++ "/" ++ "/".intercalate (others.filter (!isIdle ·)) ∨
        isIdle first = false ∧ path.normal.text =
          "/".intercalate (first :: others.filter (!isIdle ·))) := by
  obtain ⟨first, others, partsEq⟩ := List.exists_cons_of_ne_nil path.parts_ne_nil
  refine ⟨first, others, partsEq, ?_⟩
  have absolute := isAbsolute_iff notEmpty partsEq
  by_cases isRoot : first = ""
  · left
    subst isRoot
    simp [normal, start, absolute, names, partsEq, isIdle]
  · by_cases isHere : first = "."
    · left
      subst isHere
      simp [normal, start, absolute, names, partsEq, isIdle]
    · right
      have notIdle : isIdle first = false := by simp [isIdle, isRoot, isHere]
      refine ⟨notIdle, ?_⟩
      simp [normal, start, absolute, names, partsEq, notIdle, isRoot, isHere]

theorem names_intercalate {names : List String} (plain : ∀ name ∈ names, '/' ∉ name.toList)
    (leading : ∀ name ∈ names, isIdle name = false) :
    FilePath.names ⟨"/".intercalate names⟩ = names := by
  cases names with
  | nil => decide
  | cons first others =>
      rw [FilePath.names, parts_intercalate plain (by simp), List.filter_eq_self]
      intro name isName
      simp [leading name isName]

/-- The normal form starts where the path starts and leads through the same names. -/
theorem normal_spec (notEmpty : path.text ≠ "") :
    path.normal.text ≠ "" ∧ path.normal.isAbsolute = path.isAbsolute ∧
      path.normal.names = path.names := by
  obtain ⟨first, others, partsEq, cases⟩ := normal_cases notEmpty
  have plain : ∀ part ∈ first :: others, '/' ∉ part.toList :=
    fun part isPart => not_mem_of_mem_parts (partsEq ▸ isPart)
  have firstPlain := plain first List.mem_cons_self
  have keptPlain : ∀ name ∈ others.filter (!isIdle ·), '/' ∉ name.toList :=
    fun name isName => plain name (List.mem_cons_of_mem _ (List.mem_filter.1 isName).1)
  have keptLeading : ∀ name ∈ others.filter (!isIdle ·), isIdle name = false :=
    fun name isName => by simpa using (List.mem_filter.1 isName).2
  rcases cases with ⟨idle, normalEq⟩ | ⟨leading, normalEq⟩
  · have normalParts : path.normal.parts =
        first :: parts ⟨"/".intercalate (others.filter (!isIdle ·))⟩ := by
      rw [parts_eq, normalEq, ← parts_eq ⟨_⟩, parts_append, parts_of_plain firstPlain]
      rfl
    have normalNotEmpty : path.normal.text ≠ "" := by
      rw [normalEq]
      intro isEmpty
      simpa using congrArg String.toList isEmpty
    refine ⟨normalNotEmpty, ?_, ?_⟩
    · rw [Bool.eq_iff_iff, isAbsolute_iff normalNotEmpty normalParts,
        isAbsolute_iff notEmpty partsEq]
    · have keptNames := names_intercalate keptPlain keptLeading
      rw [names] at keptNames
      rw [names, normalParts, names, partsEq, List.filter_cons, List.filter_cons, keptNames]
  · have allPlain : ∀ name ∈ first :: others.filter (!isIdle ·), '/' ∉ name.toList :=
      List.forall_mem_cons.2 ⟨firstPlain, keptPlain⟩
    have normalParts : path.normal.parts = first :: others.filter (!isIdle ·) := by
      rw [parts_eq, normalEq, ← parts_eq ⟨_⟩, parts_intercalate allPlain (by simp)]
    have normalNotEmpty : path.normal.text ≠ "" := by
      intro isEmpty
      have emptyParts : path.normal.parts = [""] := by
        rw [parts_eq, isEmpty]
        rfl
      rw [normalParts, List.cons.injEq] at emptyParts
      simp [emptyParts.1, isIdle] at leading
    refine ⟨normalNotEmpty, ?_, ?_⟩
    · rw [Bool.eq_iff_iff, isAbsolute_iff normalNotEmpty normalParts,
        isAbsolute_iff notEmpty partsEq]
    · rw [names, normalParts, names, partsEq, List.filter_cons, List.filter_cons,
        List.filter_filter]
      simp [leading]

theorem intercalate_sublist_flatMap (border : Char) (parts : List (List Char)) :
    List.Sublist ([border].intercalate parts) (parts.flatMap (· ++ [border])) := by
  induction parts with
  | nil => simp
  | cons first others ih =>
      cases others with
      | nil => simp
      | cons second rest =>
          rw [List.intercalate_cons_cons, List.flatMap_cons]
          exact ih.append_left _

theorem flatMap_splitOn (border : Char) (text : List Char) :
    (text.splitOn border).flatMap (· ++ [border]) = text ++ [border] := by
  have joined (parts : List (List Char)) (notNil : parts ≠ []) :
      parts.flatMap (· ++ [border]) = [border].intercalate parts ++ [border] := by
    induction parts with
    | nil => exact absurd rfl notNil
    | cons first others ih =>
        cases others with
        | nil => simp
        | cons second rest =>
            rw [List.flatMap_cons, ih (by simp), List.intercalate_cons_cons]
            simp
  rw [joined _ (List.splitOn_ne_nil border text), List.intercalate_splitOn]

theorem sublist_flatMap {few many : List String} (sublist : List.Sublist few many)
    (spell : String → List Char) : List.Sublist (few.flatMap spell) (many.flatMap spell) := by
  induction sublist with
  | slnil => simp
  | cons part _ ih => exact ih.trans (List.sublist_append_right _ _)
  | cons_cons part _ ih => exact ih.append_left _

/-- A path in normal form has no characters that it did not have, but for a last slash. -/
theorem normal_sublist (notEmpty : path.text ≠ "") :
    List.Sublist path.normal.text.toList (path.text.toList ++ ['/']) := by
  obtain ⟨first, others, partsEq, cases⟩ := normal_cases notEmpty
  have textEq : path.text.toList ++ ['/'] =
      (first :: others).flatMap (·.toList ++ ['/']) := by
    rw [← flatMap_splitOn, ← partsEq, parts_eq, List.flatMap_map]
    simp
  have kept : List.Sublist (others.filter (!isIdle ·)) others := List.filter_sublist
  have intercalated (names : List String) :
      List.Sublist ("/".intercalate names).toList (names.flatMap (·.toList ++ ['/'])) := by
    have sublist := intercalate_sublist_flatMap '/' (names.map String.toList)
    rw [List.flatMap_map] at sublist
    rw [String.toList_intercalate]
    exact sublist
  rw [textEq, List.flatMap_cons]
  rcases cases with ⟨_, normalEq⟩ | ⟨_, normalEq⟩
  · rw [normalEq]
    simp only [String.toList_append]
    exact ((intercalated _).trans (sublist_flatMap kept _)).append_left _
  · rw [normalEq]
    exact (intercalated _).trans (sublist_flatMap (kept.cons_cons first) _)

theorem byteSize_le_of_sublist {few many : List Char} (sublist : List.Sublist few many) :
    byteSize few ≤ byteSize many := by
  induction sublist with
  | slnil => exact Nat.le_refl _
  | cons char _ ih => exact Nat.le_trans ih (Nat.le_add_left _ _)
  | cons_cons char _ ih => exact Nat.add_le_add_left ih _

theorem isUsable_iff :
    path.isUsable = true ↔
      byteSize path.text.toList ≤ longestPath ∧ '\x00' ∉ path.text.toList := by
  simp [isUsable, byteSize_toList]

theorem isUsable_normal {directory name : String} (notEmpty : name ≠ "")
    (isUsable : FilePath.isUsable ⟨directory ++ "/" ++ name⟩ = true) :
    (FilePath.normal ⟨directory ++ "/"⟩).isUsable = true := by
  have pathNotEmpty : (⟨directory ++ "/"⟩ : FilePath).text ≠ "" := by
    intro isEmpty
    simpa using congrArg String.toList isEmpty
  have sublist := normal_sublist pathNotEmpty
  have normalSize := byteSize_le_of_sublist sublist
  have nameSize := byteSize_pos (mt String.toList_eq_nil_iff.1 notEmpty)
  have slashSize : '/'.utf8Size = 1 := rfl
  obtain ⟨size, noNull⟩ := isUsable_iff.1 isUsable
  simp only [String.toList_append, byteSize_append, byteSize_cons, byteSize_nil, slashSize,
    List.mem_append, not_or] at size noNull normalSize
  refine isUsable_iff.2 ⟨by omega, ?_⟩
  intro isNull
  have isEarlier := sublist.mem isNull
  simp only [String.toList_append, List.mem_append, noNull] at isEarlier
  simp at isEarlier

theorem isAbsolute_append (directory rest : String) :
    isAbsolute ⟨directory ++ "/" ++ rest⟩ = isAbsolute ⟨directory ++ "/"⟩ := by
  simp only [isAbsolute, String.toList_append]
  cases directory.toList <;> rfl

theorem start_append (directory rest : String) :
    start ⟨directory ++ "/" ++ rest⟩ = start ⟨directory ++ "/"⟩ := by
  have sameFirst : (parts ⟨directory ++ "/" ++ rest⟩).head? =
      (parts ⟨directory ++ "/" ++ ""⟩).head? := by
    rw [parts_append, parts_append]
    obtain ⟨first, others, partsEq⟩ := List.exists_cons_of_ne_nil (parts_ne_nil ⟨directory⟩)
    rw [partsEq]
    rfl
  rw [String.append_empty] at sameFirst
  rw [start, start, isAbsolute_append, sameFirst]

theorem names_of_plain {name : String} (plain : '/' ∉ name.toList) (leading : isIdle name = false) :
    names ⟨name⟩ = [name] := by
  rw [names, parts_of_plain plain]
  simp [leading]

theorem names_directory (directory : String) : names ⟨directory ++ "/"⟩ = names ⟨directory⟩ := by
  have nothing : names ⟨""⟩ = [] := by decide
  rw [← String.append_empty (s := directory ++ "/"), names_append, nothing, List.append_nil]

/-- The directory of a path that ends in a name is what stands before the name. -/
theorem parent?_append {directory name : String} (plain : '/' ∉ name.toList)
    (leading : isIdle name = false) :
    parent? ⟨directory ++ "/" ++ name⟩ = some (normal ⟨directory ++ "/"⟩) := by
  have namesEq : names ⟨directory ++ "/" ++ name⟩ = names ⟨directory⟩ ++ [name] := by
    rw [names_append, names_of_plain plain leading]
  rw [parent?, normal, namesEq, start_append, names_directory, List.dropLast_concat]
  simp

end FilePath

/-! ## Directories of a tree -/

namespace FileTree

variable {tree : FileTree}

theorem walk_cons_eq_ok_iff {name : String} {rest : List String} {here place : Route} :
    tree.walk here (name :: rest) = .ok place ↔
      tree.get? here = some .directory ∧ name.utf8ByteSize ≤ FilePath.longestName ∧
        tree.walk (here.step name) rest = .ok place := by
  rw [walk]
  split
  · rename_i isDirectory
    by_cases isShort : name.utf8ByteSize ≤ FilePath.longestName <;> simp [isDirectory, isShort]
  · rename_i entry notDirectory entryEq
    simp [entryEq, show ¬ entry = .directory from notDirectory]
  · rename_i isMissing
    simp [isMissing]

theorem walk_concat {names : List String} {last : String} {here place : Route}
    (leads : tree.walk here (names ++ [last]) = .ok place) :
    ∃ route, tree.walk here names = .ok route ∧ tree.get? route = some .directory ∧
      place = route.step last := by
  induction names generalizing here with
  | nil =>
      obtain ⟨isDirectory, _, placeEq⟩ := walk_cons_eq_ok_iff.1 leads
      exact ⟨here, rfl, isDirectory, (Except.ok.inj placeEq).symm⟩
  | cons name rest ih =>
      obtain ⟨isDirectory, isShort, leadsOn⟩ := walk_cons_eq_ok_iff.1 leads
      obtain ⟨route, leadsThere, rest⟩ := ih leadsOn
      exact ⟨route, walk_cons_eq_ok_iff.2 ⟨isDirectory, isShort, leadsThere⟩, rest⟩

theorem resolve_eq_ok_iff {path : FilePath} {place : Route} :
    tree.resolve path = .ok place ↔
      path.isUsable = true ∧ path.text ≠ "" ∧
        ∃ here, tree.start? path = some here ∧ tree.walk here path.names = .ok place := by
  unfold resolve
  by_cases isUsable : path.isUsable = true
  · cases startEq : tree.start? path with
    | none => simp [isUsable]
    | some here =>
        by_cases isEmpty : path.text = ""
        · simp [isUsable, isEmpty]
        · simp [isUsable, isEmpty]
  · simp [isUsable]

theorem read_eq_ok {path : FilePath} {text : String} (isRead : tree.read path = .ok text) :
    ∃ place, tree.resolve path = .ok place ∧ tree.get? place = some (.text text) := by
  unfold read find at isRead
  cases placeEq : tree.resolve path with
  | error failure => simp [placeEq, bind, Except.bind] at isRead
  | ok place =>
      refine ⟨place, rfl, ?_⟩
      cases entryEq : tree.get? place with
      | none => simp [placeEq, entryEq, bind, Except.bind] at isRead
      | some entry =>
          cases entry with
          | text content =>
              by_cases goesOn : path.endsInDirectory = true
              · simp [placeEq, entryEq, bind, Except.bind, FileEntry.isFile, goesOn] at isRead
              · simp [placeEq, entryEq, bind, Except.bind, FileEntry.isFile, goesOn] at isRead
                rw [isRead]
          | undecodable =>
              by_cases goesOn : path.endsInDirectory = true <;>
                simp [placeEq, entryEq, bind, Except.bind, FileEntry.isFile, goesOn] at isRead
          | directory =>
              simp [placeEq, entryEq, bind, Except.bind, FileEntry.isFile] at isRead

theorem mem_of_get?_eq_some {place : Route} {entry : FileEntry} (notRoot : place ≠ [])
    (entryEq : tree.get? place = some entry) : (place, entry) ∈ tree.entries := by
  rw [get?, if_neg (by simpa using notRoot)] at entryEq
  obtain ⟨before, after, entriesEq, _⟩ := List.lookup_eq_some_iff.1 entryEq
  simp [entriesEq]

/-- A file that can be read is listed in its directory. -/
theorem mem_names?_of_read {directory name text : String}
    (isRead : tree.read ⟨directory ++ "/" ++ name⟩ = .ok text) (plain : '/' ∉ name.toList)
    (leading : FilePath.isIdle name = false) (notBack : name ≠ FilePath.parentName) :
    ∃ names, tree.names? (FilePath.normal ⟨directory ++ "/"⟩) = some names ∧ name ∈ names := by
  obtain ⟨place, resolved, entryEq⟩ := read_eq_ok isRead
  obtain ⟨isUsable, _, here, startEq, leads⟩ := resolve_eq_ok_iff.1 resolved
  rw [FilePath.names_append, FilePath.names_of_plain plain leading] at leads
  obtain ⟨route, leadsThere, isDirectory, placeEq⟩ := walk_concat leads
  have pathNotEmpty : (⟨directory ++ "/"⟩ : FilePath).text ≠ "" := by
    intro isEmpty
    simpa using congrArg String.toList isEmpty
  obtain ⟨normalNotEmpty, sameRoot, sameNames⟩ := FilePath.normal_spec pathNotEmpty
  have nameNotEmpty : name ≠ "" := by
    rintro rfl
    simp [FilePath.isIdle] at leading
  have resolvedThere : tree.resolve (FilePath.normal ⟨directory ++ "/"⟩) = .ok route := by
    refine resolve_eq_ok_iff.2 ⟨FilePath.isUsable_normal nameNotEmpty isUsable, normalNotEmpty,
      here, ?_, ?_⟩
    · rw [← startEq, start?, start?, sameRoot, FilePath.isAbsolute_append]
    · rw [sameNames, FilePath.names_directory, leadsThere]
  have placeIs : place = route ++ [name] := placeEq.trans (if_neg notBack)
  have isEntry := mem_of_get?_eq_some (by simp [placeIs]) entryEq
  unfold names?
  rw [resolvedThere]
  simp only [Except.toOption, Option.bind_eq_bind, Option.bind_some, isDirectory, if_true]
  refine ⟨_, rfl, List.mem_filterMap.2 ⟨_, List.mem_filter.2 ⟨isEntry, ?_⟩, ?_⟩⟩
  · simp [placeIs]
  · simp [placeIs]

end FileTree

end Gamebook
