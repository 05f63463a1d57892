import Gamebook.Proofs.DirectoryListing
import Gamebook.Proofs.TrimmedText
import Gamebook.Server.Session

/-!
# Scene files and their projects

The project of a document is its URI up to the last slash, so that a name without a
slash behind it names a scene of the same project.  The scene files beside a document
are named in this way after the files in its directory, and a name of plain characters
makes a valid URI whenever the document has one.
-/

namespace Gamebook

namespace Uri

/-- A name without a slash names a document of the project that it stands behind. -/
theorem project_append {uri : Uri} {name : String} (plain : '/' ∉ name.toList) :
    project (project uri ++ name) = project uri := by
  have allInName : ∀ char ∈ name.toList, (char != '/') = true := by
    intro char isIn
    exact bne_iff_ne.2 fun same => plain (same ▸ isIn)
  simp only [project, String.toList_append, String.toList_ofList]
  rw [trimEndChars_append_of_all _ allInName, trimEndChars_trimEndChars]

theorem isSceneFile_iff {uri : Uri} :
    isSceneFile uri = true ↔ ∃ stem : List Char, uri.toList = stem ++ sceneExtension.toList := by
  rw [isSceneFile, List.isSuffixOf_iff_suffix]
  exact exists_congr fun _ => eq_comm

/-- The URI of a file in a directory. -/
def ofFile (directory name : String) : Uri :=
  fileScheme ++ (directory ++ "/" ++ name)

theorem toList_ofFile (directory name : String) :
    (ofFile directory name).toList =
      fileScheme.toList ++ (directory.toList ++ '/' :: name.toList) := by
  simp [ofFile]

theorem path?_ofFile (directory name : String) :
    path? (ofFile directory name) = some ⟨directory ++ "/" ++ name⟩ := by
  have charsEq : (ofFile directory name).toList =
      fileScheme.toList ++ (directory ++ "/" ++ name).toList := String.toList_append
  have isPrefix : fileScheme.toList.isPrefixOf (ofFile directory name).toList = true := by
    rw [charsEq, List.isPrefixOf_iff_prefix]
    exact List.prefix_append _ _
  have lengthEq : fileScheme.length = fileScheme.toList.length := by decide
  rw [path?, if_pos isPrefix, charsEq, lengthEq, List.drop_left, String.ofList_toList]

theorem project_ofFile {directory name : String} (plain : '/' ∉ name.toList) :
    project (ofFile directory name) = fileScheme ++ (directory ++ "/") := by
  have charsEq : (ofFile directory name).toList =
      fileScheme.toList ++ directory.toList ++ ['/'] ++ name.toList := by
    simp [toList_ofFile]
  have allInName : ∀ char ∈ name.toList, (char != '/') = true := by
    intro char isIn
    exact bne_iff_ne.2 fun same => plain (same ▸ isIn)
  rw [project, charsEq, trimEndChars_append_of_all _ allInName, trimEndChars_concat _ (by simp)]
  apply String.toList_inj.1
  simp

theorem project_ofFile_eq {directory name other : String} (plain : '/' ∉ name.toList)
    (otherPlain : '/' ∉ other.toList) :
    project (ofFile directory name) = project (ofFile directory other) := by
  rw [project_ofFile plain, project_ofFile otherPlain]

theorem project_ofFile_append {directory name : String} (plain : '/' ∉ name.toList)
    (other : String) : project (ofFile directory name) ++ other = ofFile directory other := by
  rw [project_ofFile plain, ofFile, String.append_assoc]

/-! ## Valid URIs -/

variable {allowed : Char → Bool}

theorem isEscaped_cons_of_ne {char : Char} (notEscape : char ≠ '%') (rest : List Char) :
    isEscaped allowed (char :: rest) = (allowed char && isEscaped allowed rest) := by
  rw [isEscaped.eq_3 _ _ _ (fun _ _ _ isEscape => absurd isEscape notEscape),
    bne_iff_ne.2 notEscape, Bool.true_and]

/-- No escape goes over a slash. -/
theorem isEscaped_append_slash (left right : List Char) :
    isEscaped allowed (left ++ '/' :: right) = true ↔
      isEscaped allowed left = true ∧ allowed '/' = true ∧ isEscaped allowed right = true := by
  fun_induction isEscaped allowed left with
  | case1 => simp [isEscaped_cons_of_ne]
  | case2 high low rest ih => simp [isEscaped, ih, and_assoc]
  | case3 char rest noEscape ih =>
      by_cases isEscape : char = '%'
      · subst isEscape
        match rest, noEscape with
        | [], _ => cases right <;> simp [isEscaped, isHexDigit]
        | [high], _ => simp [isEscaped, isHexDigit]
        | high :: low :: rest, noEscape => exact absurd rfl (noEscape high low rest rfl)
      · rw [List.cons_append, isEscaped_cons_of_ne isEscape]
        simp [isEscape, ih, and_assoc]

theorem isEscaped_of_unreserved {text : List Char}
    (unreserved : ∀ char ∈ text, isUnreserved char = true)
    (enough : ∀ char, isUnreserved char = true → allowed char = true) :
    isEscaped allowed text = true := by
  induction text with
  | nil => rfl
  | cons char rest ih =>
      obtain ⟨first, others⟩ := List.forall_mem_cons.1 unreserved
      have notEscape : char ≠ '%' := by
        rintro rfl
        exact absurd first (by decide)
      rw [isEscaped_cons_of_ne notEscape, ih others, enough char first]
      rfl

theorem cutAt_append {border : Char → Bool} {left : List Char}
    (none : ∀ char ∈ left, border char = false) (right : List Char) :
    cutAt border (left ++ right) = (left ++ (cutAt border right).1, (cutAt border right).2) := by
  have passes : ∀ char ∈ left, (!border char) = true := by
    intro char isIn
    simp [none char isIn]
  unfold cutAt
  rw [List.dropWhile_append_of_pos passes, List.takeWhile_append_of_pos passes]
  cases right.dropWhile (!border ·) <;> rfl

theorem cutAt_of_forall {border : Char → Bool} {text : List Char}
    (none : ∀ char ∈ text, border char = false) : cutAt border text = (text, .none) := by
  have whole := cutAt_append none []
  rw [List.append_nil] at whole
  simpa [cutAt] using whole

theorem cutAt_append_border {border : Char → Bool} {left : List Char} {char : Char}
    (none : ∀ char ∈ left, border char = false) (isBorder : border char = true)
    (right : List Char) : cutAt border (left ++ char :: right) = (left, some right) := by
  rw [cutAt_append none]
  simp [cutAt, isBorder]

theorem isValid_file_iff {uri : Uri} {rest : List Char}
    (uriEq : uri.toList = fileScheme.toList ++ rest) :
    isValid uri = true ↔
      isQuery ((cutAt (· == '#') rest).2.getD []) = true ∧
        isQuery ((cutAt (· == '?') (cutAt (· == '#') rest).1).2.getD []) = true ∧
        isHierarchy ('/' :: '/' :: (cutAt (· == '?') (cutAt (· == '#') rest).1).1) = true := by
  have noMark : ∀ char ∈ fileScheme.toList, (char == '#') = false := by simp [fileScheme]
  have noQuery : ∀ char ∈ fileScheme.toList, (char == '?') = false := by simp [fileScheme]
  have segment (more : List Char) :
      (fileScheme.toList ++ more).takeWhile (· != '/') = "file:".toList := by
    simp [fileScheme]
  have scheme : cutAt (· == ':') "file:".toList = ("file".toList, some []) := by decide
  have isFile : isScheme "file".toList = true := by decide
  rw [isValid, uriEq, cutAt_append noMark]
  simp only
  rw [cutAt_append noQuery]
  simp only [segment, scheme, isFile, Bool.true_and, Bool.and_eq_true, and_assoc]
  rfl

theorem isEscaped_sibling {left name other : List Char}
    (unreserved : ∀ char ∈ other, isUnreserved char = true)
    (enough : ∀ char, isUnreserved char = true → allowed char = true)
    (valid : isEscaped allowed (left ++ '/' :: name) = true) :
    isEscaped allowed (left ++ '/' :: other) = true := by
  obtain ⟨leftValid, slashAllowed, _⟩ := (isEscaped_append_slash left name).1 valid
  exact (isEscaped_append_slash left other).2
    ⟨leftValid, slashAllowed, isEscaped_of_unreserved unreserved enough⟩

theorem cutAt_slash_cases (mark : Char) (notSlash : mark ≠ '/') (directory : List Char) :
    (∃ front behind, ∀ name, cutAt (· == mark) (directory ++ '/' :: name) =
        (front, some (behind ++ '/' :: name))) ∨
      ∀ name, cutAt (· == mark) (directory ++ '/' :: name) =
        (directory ++ '/' :: (cutAt (· == mark) name).1, (cutAt (· == mark) name).2) := by
  by_cases isMarked : mark ∈ directory
  · left
    obtain ⟨front, behind, rfl, notEarlier⟩ := List.eq_append_cons_of_mem isMarked
    refine ⟨front, behind, ?_⟩
    intro name
    have none : ∀ char ∈ front, (char == mark) = false := by
      intro char isIn
      exact beq_eq_false_iff_ne.2 fun same => notEarlier (same ▸ isIn)
    rw [List.append_assoc, List.cons_append, cutAt_append_border none (beq_self_eq_true mark)]
  · right
    intro name
    have none : ∀ char ∈ directory ++ ['/'], (char == mark) = false := by
      intro char isIn
      rw [List.mem_append, List.mem_singleton] at isIn
      rw [beq_eq_false_iff_ne]
      rintro rfl
      exact isIn.elim isMarked notSlash
    have cut := cutAt_append none name
    simpa using cut

theorem takeWhile_append_slash (directory name : List Char) :
    (directory ++ '/' :: name).takeWhile (· != '/') = directory.takeWhile (· != '/') :=
  takeWhile_append_of_head? (by simp) directory

theorem dropWhile_append_slash (directory name : List Char) :
    (directory ++ '/' :: name).dropWhile (· != '/') =
      directory.dropWhile (· != '/') ++ '/' :: name :=
  dropWhile_append_of_head? (by simp) directory

theorem isHierarchy_sibling {directory name other : List Char}
    (unreserved : ∀ char ∈ other, isUnreserved char = true)
    (valid : isHierarchy ('/' :: '/' :: (directory ++ '/' :: name)) = true) :
    isHierarchy ('/' :: '/' :: (directory ++ '/' :: other)) = true := by
  simp only [isHierarchy, takeWhile_append_slash, dropWhile_append_slash, Bool.and_eq_true]
    at valid ⊢
  refine ⟨valid.1, isEscaped_sibling unreserved ?_ valid.2⟩
  intro char isPlain
  simp [isPathChar, isPlain]

/-- A name of plain characters is as good as any other behind the last slash of a URI. -/
theorem isValid_ofFile {directory name other : String}
    (unreserved : ∀ char ∈ other.toList, isUnreserved char = true)
    (valid : isValid (ofFile directory name) = true) :
    isValid (ofFile directory other) = true := by
  have whole (mark : Char) (isReserved : isUnreserved mark = false) :
      cutAt (· == mark) other.toList = (other.toList, none) := by
    apply cutAt_of_forall
    intro char isIn
    rw [beq_eq_false_iff_ne]
    rintro rfl
    simp [unreserved char isIn] at isReserved
  have queryChars (char : Char) (isPlain : isUnreserved char = true) :
      (isPathChar char || char == '/' || char == '?') = true := by
    simp [isPathChar, isPlain]
  rw [isValid_file_iff (toList_ofFile directory name)] at valid
  rw [isValid_file_iff (toList_ofFile directory other)]
  rcases cutAt_slash_cases '#' (by decide) directory.toList with
    ⟨front, behind, cut⟩ | cut
  · simp only [cut, Option.getD_some] at valid ⊢
    exact ⟨isEscaped_sibling unreserved queryChars valid.1, valid.2⟩
  · simp only [cut, whole '#' (by decide), Option.getD_none] at valid ⊢
    refine ⟨rfl, ?_⟩
    rcases cutAt_slash_cases '?' (by decide) directory.toList with
      ⟨front, behind, cut⟩ | cut
    · simp only [cut, Option.getD_some] at valid ⊢
      exact ⟨isEscaped_sibling unreserved queryChars valid.2.1, valid.2.2⟩
    · simp only [cut, whole '?' (by decide), Option.getD_none] at valid ⊢
      exact ⟨rfl, isHierarchy_sibling unreserved valid.2.2⟩

end Uri

namespace FileTree

/-- No name on the disk has a slash. -/
def HasPlainNames (tree : FileTree) : Prop :=
  ∀ item ∈ tree.entries, ∀ name ∈ item.1, '/' ∉ name.toList

theorem HasPlainNames.not_mem_of_names? {tree : FileTree} (plain : tree.HasPlainNames)
    {path : FilePath} {names : List String} (listed : tree.names? path = some names)
    {name : String} (isName : name ∈ names) : '/' ∉ name.toList := by
  obtain ⟨route, _, rest⟩ := Option.bind_eq_some_iff.1 listed
  split at rest
  · obtain rfl := Option.some.inj rest
    obtain ⟨item, isItem, isLast⟩ := List.mem_filterMap.1 isName
    exact plain item (List.mem_filter.1 isItem).1 name (List.mem_of_getLast? isLast)
  · simp at rest

end FileTree

theorem project_of_mem_sceneFilesBeside {files : FileTree} (plain : files.HasPlainNames)
    {uri sibling : Uri} (isBeside : sibling ∈ sceneFilesBeside files uri) :
    Uri.project sibling = Uri.project uri := by
  obtain ⟨name, isNamed, rfl⟩ := List.mem_map.1 (List.mem_filter.1 isBeside).1
  obtain ⟨isName, _⟩ := List.mem_filter.1 isNamed
  apply Uri.project_append
  cases pathEq : Uri.path? uri with
  | none => simp [pathEq] at isName
  | some path =>
      cases parentEq : path.parent? with
      | none => simp [pathEq, parentEq] at isName
      | some parent =>
          cases listed : files.names? parent with
          | none => simp [pathEq, parentEq, listed] at isName
          | some names =>
              simp only [pathEq, parentEq, listed, Option.bind_eq_bind, Option.bind_some,
                Option.getD_some] at isName
              exact plain.not_mem_of_names? listed isName

theorem isIdle_eq_false_of_isSceneFile {name : String} (isScene : Uri.isSceneFile name = true) :
    FilePath.isIdle name = false ∧ name ≠ FilePath.parentName := by
  obtain ⟨stem, nameEq⟩ := Uri.isSceneFile_iff.1 isScene
  have isLong : 4 ≤ name.toList.length := by simp [nameEq, sceneExtension]
  have isOther (short : String) (isShort : short.toList.length < 4) : name ≠ short := by
    rintro rfl
    omega
  refine ⟨?_, isOther _ (by decide)⟩
  simp [FilePath.isIdle, isOther "" (by decide), isOther "." (by decide)]

/-- A directory has a scene file that can be read, and the name of the file has plain
characters only. -/
structure FileTree.HasScene (files : FileTree) (directory name : String) : Prop where
  isScene : Uri.isSceneFile name = true
  unreserved : ∀ char ∈ name.toList, Uri.isUnreserved char = true
  isReadable : ∃ text, files.read ⟨directory ++ "/" ++ name⟩ = .ok text

namespace FileTree.HasScene

variable {files : FileTree} {directory name sibling : String}

theorem plain (hasScene : files.HasScene directory name) : '/' ∉ name.toList :=
  fun isSlash => absurd (hasScene.unreserved '/' isSlash) (by decide)

theorem readScene?_eq (hasScene : files.HasScene directory name) :
    ∃ text, readScene? files (Uri.ofFile directory name) =
      some (.ofText (Uri.ofFile directory name) 0 text) := by
  obtain ⟨text, isRead⟩ := hasScene.isReadable
  exact ⟨text, by simp [readScene?, Uri.path?_ofFile, isRead, Except.toOption]⟩

/-- A scene file is found beside every other file of its directory. -/
theorem mem_sceneFilesBeside (hasScene : files.HasScene directory sibling)
    (isValid : Uri.isValid (Uri.ofFile directory name) = true) (plain : '/' ∉ name.toList)
    (isNamed : FilePath.isIdle name = false) :
    Uri.ofFile directory sibling ∈ sceneFilesBeside files (Uri.ofFile directory name) := by
  obtain ⟨leading, notBack⟩ := isIdle_eq_false_of_isSceneFile hasScene.isScene
  obtain ⟨text, isRead⟩ := hasScene.isReadable
  obtain ⟨names, listed, isListed⟩ :=
    FileTree.mem_names?_of_read isRead hasScene.plain leading notBack
  have parentEq : FilePath.parent? ⟨directory ++ "/" ++ name⟩ = some _ :=
    FilePath.parent?_append plain isNamed
  rw [sceneFilesBeside]
  refine List.mem_filter.2 ⟨List.mem_map.2 ⟨sibling, ?_, ?_⟩,
    Uri.isValid_ofFile hasScene.unreserved isValid⟩
  · simp only [Uri.path?_ofFile, Option.bind_eq_bind, Option.bind_some, parentEq, listed,
      Option.getD_some]
    exact List.mem_filter.2 ⟨isListed, hasScene.isScene⟩
  · exact Uri.project_ofFile_append plain sibling

end FileTree.HasScene

end Gamebook
