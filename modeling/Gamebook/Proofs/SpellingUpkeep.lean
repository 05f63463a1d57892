import Gamebook.Proofs.ShownDiagnostics
import Gamebook.Proofs.DirectoryListing
import Gamebook.Proofs.WordPlaces
import Gamebook.Proofs.WorkspaceCalls

/-!
# Dictionaries that follow the settings

The dictionaries are loaded when a call needs them, and of those that are there only the
ones are loaded again that the settings have changed.  All the same a workspace answers
like a new one with the settings of the moment, whatever settings and failures came before,
as long as no file is written and no word accepted.

Whether a path has changed is decided by its normal form.  That form leaves out a slash at
the end, with which a path leads to no file, and does not tell how long the path is written.
So the result is about settings that write a path in one way only, as far as this matters.
-/

namespace Gamebook

/-! ## Paths with one normal form -/

/-- Of two paths through the same names, both or neither lead to a file. -/
def FilePath.EndsLike (first second : FilePath) : Prop :=
  first.endsInDirectory = second.endsInDirectory ∧ first.isUsable = second.isUsable

instance (first second : FilePath) : Decidable (first.EndsLike second) :=
  inferInstanceAs (Decidable (_ ∧ _))

theorem FilePath.normal_eq_empty_iff {path : FilePath} :
    path.normal.text = "" ↔ path.text = "" := by
  constructor
  · intro normalEmpty
    by_contra notEmpty
    exact (normal_spec notEmpty).1 normalEmpty
  · intro isEmpty
    obtain rfl : path = ⟨""⟩ := congrArg FilePath.mk isEmpty
    decide

theorem FilePath.route_eq_of_normal_eq {first second : FilePath}
    (same : first.normal = second.normal) :
    first.text.isEmpty = second.text.isEmpty ∧ first.isAbsolute = second.isAbsolute ∧
      first.names = second.names := by
  have emptyIff : first.text = "" ↔ second.text = "" := by
    rw [← normal_eq_empty_iff, same, normal_eq_empty_iff]
  by_cases firstEmpty : first.text = ""
  · have textEq : first.text = second.text := firstEmpty.trans (emptyIff.1 firstEmpty).symm
    obtain rfl : first = second := congrArg FilePath.mk textEq
    exact ⟨rfl, rfl, rfl⟩
  · have secondEmpty := mt emptyIff.2 firstEmpty
    obtain ⟨_, firstAbsolute, firstNames⟩ := normal_spec firstEmpty
    obtain ⟨_, secondAbsolute, secondNames⟩ := normal_spec secondEmpty
    refine ⟨?_, ?_, ?_⟩
    · rw [Bool.eq_iff_iff, String.isEmpty_iff, String.isEmpty_iff]
      exact emptyIff
    · rw [← firstAbsolute, ← secondAbsolute, same]
    · rw [← firstNames, ← secondNames, same]

theorem FileTree.read_eq_of_normal_eq (tree : FileTree) {first second : FilePath}
    (same : first.normal = second.normal) (alike : first.EndsLike second) :
    tree.read first = tree.read second := by
  obtain ⟨emptyEq, absoluteEq, namesEq⟩ := FilePath.route_eq_of_normal_eq same
  have resolveEq : tree.resolve first = tree.resolve second := by
    simp only [resolve, start?, alike.2, emptyEq, absoluteEq, namesEq]
  simp only [read, find, resolveEq, alike.1]

/-- If two paths have one normal form, both or neither lead to a file. -/
def WrittenAlike (first second : Option String) : Prop :=
  ∀ path ∈ first, ∀ other ∈ second, normalPath path = normalPath other →
    FilePath.EndsLike ⟨path⟩ ⟨other⟩

instance (first second : Option String) : Decidable (WrittenAlike first second) :=
  inferInstanceAs (Decidable (∀ path ∈ first, ∀ other ∈ second, _))

theorem WrittenAlike.cases {first second : Option String} (alike : WrittenAlike first second)
    (same : first.map normalPath = second.map normalPath) :
    (first = none ∧ second = none) ∨ ∃ path other, first = some path ∧ second = some other ∧
      ∀ files : FileTree, files.read ⟨path⟩ = files.read ⟨other⟩ := by
  cases first with
  | none => simpa using same.symm
  | some path =>
      cases second with
      | none => simp at same
      | some other =>
          have pathsEq : normalPath path = normalPath other := by simpa using same
          have normalEq : FilePath.normal ⟨path⟩ = FilePath.normal ⟨other⟩ :=
            congrArg FilePath.mk pathsEq
          exact .inr ⟨path, other, rfl, rfl, fun files =>
            files.read_eq_of_normal_eq normalEq (alike path rfl other rfl pathsEq)⟩

namespace SpellingOptions

variable {first second : SpellingOptions} {files : FileTree} {configDirectory : Option String}

/-- Two options write a path in one way only, as far as this matters. -/
structure WritesLike (first second : SpellingOptions) : Prop where
  dictionary : WrittenAlike first.dictionaryPath second.dictionaryPath
  user : WrittenAlike first.userDictionaryPath second.userDictionaryPath

instance : Decidable (first.WritesLike second) :=
  decidable_of_iff (WrittenAlike first.dictionaryPath second.dictionaryPath ∧
    WrittenAlike first.userDictionaryPath second.userDictionaryPath)
    ⟨fun both => ⟨both.1, both.2⟩, fun alike => ⟨alike.dictionary, alike.user⟩⟩

/-- No two of the options write a path so that only one of them leads to a file. -/
def AllWriteAlike (seen : List SpellingOptions) : Prop :=
  ∀ first ∈ seen, ∀ second ∈ seen, first.WritesLike second

instance (seen : List SpellingOptions) : Decidable (AllWriteAlike seen) :=
  inferInstanceAs (Decidable (∀ first ∈ seen, ∀ second ∈ seen, _))

/-- The checker of a workspace that has loaded nothing before. -/
def newChecker? (options : SpellingOptions) (files : FileTree)
    (configDirectory : Option String) : Option SpellChecker :=
  (SpellingState.load {} files configDirectory options).checker

theorem loadDictionary_eq (agrees : first.agree second = true) (alike : first.WritesLike second) :
    first.loadDictionary files = second.loadDictionary files := by
  have normalEq : first.normal = second.normal := by simpa [agree] using agrees
  have languageEq : first.language = second.language := congrArg (·.language) normalEq
  have pathEq : first.dictionaryPath.map normalPath = second.dictionaryPath.map normalPath :=
    congrArg (·.dictionaryPath) normalEq
  rcases alike.dictionary.cases pathEq with
    ⟨firstNone, secondNone⟩ | ⟨path, other, firstSome, secondSome, readEq⟩
  · simp only [loadDictionary, firstNone, secondNone, languageEq]
  · simp only [loadDictionary, firstSome, secondSome, Dictionary.load, readEq]

theorem words_loadUserDictionary_eq
    (pathEq : first.normal.userDictionaryPath = second.normal.userDictionaryPath)
    (alike : first.WritesLike second) :
    (first.loadUserDictionary files configDirectory).words =
      (second.loadUserDictionary files configDirectory).words := by
  rcases alike.user.cases pathEq with
    ⟨firstNone, secondNone⟩ | ⟨path, other, firstSome, secondSome, readEq⟩
  · simp only [loadUserDictionary, firstNone, secondNone]
  · simp only [loadUserDictionary, firstSome, secondSome, Option.some_or, UserDictionary.load,
      readEq]
    split <;> rfl

theorem newChecker?_eq_some {options : SpellingOptions} {checker : SpellChecker}
    (checkerEq : options.newChecker? files configDirectory = some checker) :
    checker.session = {} ∧ checker.user = options.loadUserDictionary files configDirectory := by
  cases loaded : options.loadDictionary files with
  | error failure => simp [newChecker?, SpellingState.load_of_error loaded] at checkerEq
  | ok dictionary =>
      rw [newChecker?, SpellingState.load_of_no_checker loaded rfl] at checkerEq
      obtain rfl := Option.some.inj checkerEq
      exact ⟨rfl, rfl⟩

end SpellingOptions

/-! ## Checkers that give the same answers -/

namespace SpellChecker

variable {first second : SpellChecker}

/-- The same words, those of the user kept in memory. -/
def inMemory (checker : SpellChecker) : SpellChecker :=
  { checker with user := { checker.user with path := none } }

theorem inMemory_eq_iff :
    first.inMemory = second.inMemory ↔ first.dictionary = second.dictionary ∧
      first.session = second.session ∧ first.user.words = second.user.words := by
  simp [inMemory]

/-- Where the user's words are kept makes no difference to an answer. -/
theorem answers_eq (same : first.inMemory = second.inMemory) :
    first.check = second.check ∧ first.suggest = second.suggest ∧
      first.quickFixes? = second.quickFixes? := by
  have checkEq : first.inMemory.check = second.inMemory.check := by rw [same]
  have suggestEq : first.inMemory.suggest = second.inMemory.suggest := by rw [same]
  have fixesEq : first.inMemory.quickFixes? = second.inMemory.quickFixes? := by rw [same]
  exact ⟨checkEq, suggestEq, fixesEq⟩

theorem cases_of_map_inMemory_eq {first second : Option SpellChecker}
    (same : first.map (·.inMemory) = second.map (·.inMemory)) :
    (first = none ∧ second = none) ∨ ∃ one other : SpellChecker,
      first = some one ∧ second = some other ∧ one.inMemory = other.inMemory := by
  cases first with
  | none =>
      cases second with
      | none => exact .inl ⟨rfl, rfl⟩
      | some other => simp at same
  | some one =>
      cases second with
      | none => simp at same
      | some other => exact .inr ⟨one, other, rfl, rfl, Option.some.inj same⟩

end SpellChecker

theorem Workspace.answers_eq {first second : Workspace} {files : FileTree}
    (sameSettings : first.settings = second.settings) (sameIndex : first.index = second.index)
    (sameWords : (first.withSpelling files).checker?.map (·.inMemory) =
      (second.withSpelling files).checker?.map (·.inMemory)) :
    (∀ document, (first.diagnose files document).2 = (second.diagnose files document).2) ∧
      (∀ words, (first.suggest files words).2 = (second.suggest files words).2) ∧
      ∀ document diagnostics, (first.quickFixes? files document diagnostics).2 =
        (second.quickFixes? files document diagnostics).2 := by
  rcases SpellChecker.cases_of_map_inMemory_eq sameWords with
    ⟨firstNone, secondNone⟩ | ⟨one, other, firstSome, secondSome, same⟩
  · simp only [diagnose, suggest, quickFixes?, reports, around, settings_withSpelling,
      index_withSpelling, sameSettings, sameIndex, firstNone, secondNone, implies_true, and_self]
  · obtain ⟨checkEq, suggestEq, fixesEq⟩ := SpellChecker.answers_eq same
    simp only [diagnose, suggest, quickFixes?, reports, around, settings_withSpelling,
      index_withSpelling, sameSettings, sameIndex, firstSome, secondSome, Option.map_some,
      Option.bind_some, checkEq, suggestEq, fixesEq, implies_true, and_self]

/-! ## States that a new load would give -/

namespace SpellingState

variable {state : SpellingState} {files : FileTree} {configDirectory : Option String}
  {options : SpellingOptions} {seen : List SpellingOptions}

/-- Nothing has been loaded, or what a new load for options seen before would give. -/
def IsNew (state : SpellingState) (files : FileTree) (configDirectory : Option String)
    (seen : List SpellingOptions) : Prop :=
  state = {} ∨ ∃ options ∈ seen, state.options = some options ∧
    state.checker.map (·.inMemory) =
      (options.newChecker? files configDirectory).map (·.inMemory)

theorem newChecker?_eq {first second : SpellingOptions} (agrees : first.agree second = true)
    (alike : first.WritesLike second) :
    (first.newChecker? files configDirectory).map (·.inMemory) =
      (second.newChecker? files configDirectory).map (·.inMemory) := by
  have normalEq : first.normal = second.normal := by simpa [SpellingOptions.agree] using agrees
  have sameDictionary : first.loadDictionary files = second.loadDictionary files :=
    SpellingOptions.loadDictionary_eq agrees alike
  cases loaded : second.loadDictionary files with
  | error failure =>
      rw [SpellingOptions.newChecker?, SpellingOptions.newChecker?, load_of_error loaded,
        load_of_error (sameDictionary.trans loaded)]
  | ok dictionary =>
      rw [SpellingOptions.newChecker?, SpellingOptions.newChecker?,
        load_of_no_checker loaded rfl, load_of_no_checker (sameDictionary.trans loaded) rfl]
      refine congrArg some (SpellChecker.inMemory_eq_iff.2 ⟨rfl, rfl, ?_⟩)
      exact SpellingOptions.words_loadUserDictionary_eq
        (congrArg (·.userDictionaryPath) normalEq) alike

theorem checker_load {previous : SpellingOptions} (alike : previous.WritesLike options)
    (optionsEq : state.options = some previous)
    (checkerEq : state.checker.map (·.inMemory) =
      (previous.newChecker? files configDirectory).map (·.inMemory)) :
    (state.load files configDirectory options).checker.map (·.inMemory) =
      (options.newChecker? files configDirectory).map (·.inMemory) := by
  unfold SpellingOptions.newChecker?
  cases loaded : options.loadDictionary files with
  | error failure => rw [load_of_error loaded, load_of_error loaded]
  | ok dictionary =>
      rcases SpellChecker.cases_of_map_inMemory_eq checkerEq with
        ⟨kept, _⟩ | ⟨checker, before, kept, beforeEq, same⟩
      · rw [load_of_no_checker loaded kept, load_of_no_checker loaded rfl]
      · -- the checker is kept: it has no words of the session, and its user's dictionary
        -- stays only if it is the one to load
        obtain ⟨_, sessionEq, wordsEq⟩ := SpellChecker.inMemory_eq_iff.1 same
        obtain ⟨noSession, userEq⟩ := SpellingOptions.newChecker?_eq_some beforeEq
        have loadedNew : load {} files configDirectory options = ⟨some options, some
            { dictionary, user := options.loadUserDictionary files configDirectory }⟩ :=
          load_of_no_checker loaded rfl
        rw [loadedNew]
        simp only [load, loaded, kept, optionsEq, Option.any_some]
        refine congrArg some (SpellChecker.inMemory_eq_iff.2 ⟨rfl, ?_, ?_⟩)
        · exact sessionEq.trans noSession
        · split
          · rename_i sameUser
            rw [wordsEq, userEq]
            exact SpellingOptions.words_loadUserDictionary_eq (by simpa using sameUser) alike
          · rfl

theorem IsNew.sync (isNew : state.IsNew files configDirectory seen) (isSeen : options ∈ seen)
    (alike : SpellingOptions.AllWriteAlike seen) :
    (state.sync files configDirectory options).IsNew files configDirectory seen ∧
      (state.sync files configDirectory options).checker.map (·.inMemory) =
        (options.newChecker? files configDirectory).map (·.inMemory) := by
  rcases isNew with rfl | ⟨previous, wasSeen, optionsEq, checkerEq⟩
  · have loads : ({} : SpellingState).sync files configDirectory options =
        load {} files configDirectory options := if_neg (by simp)
    rw [loads]
    exact ⟨.inr ⟨options, isSeen, options_load _ _ _ _, rfl⟩, rfl⟩
  · have written := alike previous wasSeen options isSeen
    unfold SpellingState.sync
    rw [optionsEq, Option.any_some]
    split
    · rename_i agrees
      exact ⟨.inr ⟨previous, wasSeen, optionsEq, checkerEq⟩,
        checkerEq.trans (newChecker?_eq agrees written)⟩
    · have loaded := checker_load written optionsEq checkerEq
      exact ⟨.inr ⟨options, isSeen, options_load _ _ _ _, loaded⟩, loaded⟩

end SpellingState

/-! ## All calls that neither accept a word nor write a file -/

namespace WorkspaceCall

/-- No word is accepted and no file is written. -/
def LeavesWords : WorkspaceCall → Prop
  | execute name arguments => AcceptWord.ofCall? name arguments = none
  | alterFiles _ => False
  | _ => True

def settings? : WorkspaceCall → Option Settings
  | configure settings => some settings
  | _ => none

/-- The options that a workspace has from its start to the end of the calls. -/
def optionsSeen (initial : Settings) (calls : List WorkspaceCall) : List SpellingOptions :=
  (initial :: calls.filterMap settings?).map (·.diagnostics.spelling)

end WorkspaceCall

namespace Workplace

variable {place : Workplace} {call : WorkspaceCall} {files : FileTree}
  {configDirectory : Option String} {seen : List SpellingOptions}

theorem files_perform (leaves : call.LeavesWords) : (place.perform call).files = place.files := by
  cases call with
  | execute name arguments =>
      have noWord : AcceptWord.ofCall? name arguments = none := leaves
      simp [perform, Workspace.execute, noWord]
  | alterFiles _ => exact leaves.elim
  | configure _ | update _ | purge _ | diagnose _ | suggest _ | quickFixes _ _ => rfl

theorem settings_perform (place : Workplace) (call : WorkspaceCall) :
    (place.perform call).workspace.settings = call.settings?.getD place.workspace.settings := by
  cases call with
  | configure _ | update _ | purge _ | alterFiles _ => rfl
  | diagnose _ | suggest _ | quickFixes _ _ =>
      exact place.workspace.settings_withSpelling place.files
  | execute name arguments =>
      exact congrArg (·.current)
        (place.workspace.execute_frame place.files name arguments).1

theorem spelling_perform (leaves : call.LeavesWords) :
    (place.perform call).workspace.spelling = place.workspace.spelling ∨
      (place.perform call).workspace.spelling = place.synced := by
  cases consults : call.consults with
  | false => exact .inl (spelling_perform_of_not_consults consults)
  | true =>
      apply Or.inr (spelling_perform_of_query consults _)
      cases call with
      | execute name arguments => exact leaves
      | alterFiles _ => exact leaves.elim
      | configure _ | update _ | purge _ | diagnose _ | suggest _ | quickFixes _ _ => rfl

/-- The dictionaries are those of a new load for options seen before, among which are the
ones of the moment. -/
structure Follows (place : Workplace) (files : FileTree) (configDirectory : Option String)
    (seen : List SpellingOptions) : Prop where
  sameFiles : place.files = files
  sameDirectory : place.workspace.configDirectory = configDirectory
  isSeen : place.workspace.settings.diagnostics.spelling ∈ seen
  isNew : place.workspace.spelling.IsNew files configDirectory seen

namespace Follows

theorem synced (follows : place.Follows files configDirectory seen)
    (alike : SpellingOptions.AllWriteAlike seen) :
    place.synced.IsNew files configDirectory seen ∧
      (place.workspace.settings.diagnostics.spelling.enabled = true →
        place.synced.checker.map (·.inMemory) =
          (place.workspace.settings.diagnostics.spelling.newChecker? files
            configDirectory).map (·.inMemory)) := by
  unfold Workplace.synced Workspace.withSpelling
  simp only
  split
  · rw [follows.sameFiles, follows.sameDirectory]
    obtain ⟨isNew, checkerEq⟩ := follows.isNew.sync follows.isSeen alike
    exact ⟨isNew, fun _ => checkerEq⟩
  · rename_i isDisabled
    exact ⟨follows.isNew, fun isEnabled => absurd isEnabled isDisabled⟩

theorem perform (follows : place.Follows files configDirectory seen) (leaves : call.LeavesWords)
    (isSeen : ∀ settings ∈ call.settings?, settings.diagnostics.spelling ∈ seen)
    (alike : SpellingOptions.AllWriteAlike seen) :
    (place.perform call).Follows files configDirectory seen where
  sameFiles := (files_perform leaves).trans follows.sameFiles
  sameDirectory := (configDirectory_perform place call).trans follows.sameDirectory
  isSeen := by
    rw [settings_perform]
    cases settingsEq : call.settings? with
    | none => exact follows.isSeen
    | some settings => exact isSeen settings settingsEq
  isNew := by
    rcases spelling_perform leaves with same | loaded
    · rw [same]
      exact follows.isNew
    · rw [loaded]
      exact (follows.synced alike).1

theorem afterCalls {calls : List WorkspaceCall} (follows : place.Follows files configDirectory seen)
    (leaves : ∀ call ∈ calls, call.LeavesWords)
    (isSeen : ∀ settings ∈ calls.filterMap (·.settings?), settings.diagnostics.spelling ∈ seen)
    (alike : SpellingOptions.AllWriteAlike seen) :
    (place.afterCalls calls).Follows files configDirectory seen := by
  induction calls generalizing place with
  | nil => exact follows
  | cons call rest ih =>
      obtain ⟨callLeaves, restLeaves⟩ := List.forall_mem_cons.1 leaves
      apply ih _ restLeaves
      · intro settings isLater
        obtain ⟨later, isCall, settingsEq⟩ := List.mem_filterMap.1 isLater
        exact isSeen settings
          (List.mem_filterMap.2 ⟨later, List.mem_cons_of_mem call isCall, settingsEq⟩)
      · apply follows.perform callLeaves _ alike
        intro settings settingsEq
        exact isSeen settings (List.mem_filterMap.2 ⟨call, List.mem_cons_self, settingsEq⟩)

theorem checker?_eq (follows : place.Follows files configDirectory seen)
    (alike : SpellingOptions.AllWriteAlike seen) :
    (place.workspace.withSpelling files).checker?.map (·.inMemory) =
      if place.workspace.settings.diagnostics.spelling.enabled = true then
        (place.workspace.settings.diagnostics.spelling.newChecker? files
          configDirectory).map (·.inMemory)
      else none := by
  rw [Workspace.checker?, Workspace.settings_withSpelling]
  split
  · rename_i isEnabled
    rw [← (follows.synced alike).2 isEnabled, Workplace.synced, follows.sameFiles]
  · rfl

end Follows

end Workplace

theorem Workspace.create_eq_ok_iff {language : String} {settings : Settings}
    {configDirectory : Option String} {workspace : Workspace} :
    create language settings configDirectory = .ok workspace ↔
      language = languageId ∧ workspace = { store := .ofSettings settings, configDirectory } := by
  unfold create
  split
  · simp [*, eq_comm]
  · simp [*]

/-- Whatever came before, a workspace answers like a new one with the settings of the moment
and the same index, as long as no word is accepted, no file is written and no two settings
write one path so that only one of them leads to a file. -/
theorem Workspace.answers_follow_settings (language : String) (initial : Settings)
    (configDirectory : Option String) (workspace : Workspace)
    (created : create language initial configDirectory = .ok workspace) (files : FileTree)
    (calls : List WorkspaceCall) (leaves : ∀ call ∈ calls, call.LeavesWords)
    (alike : SpellingOptions.AllWriteAlike (WorkspaceCall.optionsSeen initial calls)) :
    let later := ((⟨workspace, files⟩ : Workplace).afterCalls calls).workspace
    ∃ fresh, create language later.settings configDirectory = .ok fresh ∧
      let fresh := { fresh with index := later.index }
      (∀ document, (later.diagnose files document).2 = (fresh.diagnose files document).2) ∧
        (∀ words, (later.suggest files words).2 = (fresh.suggest files words).2) ∧
        ∀ document diagnostics, (later.quickFixes? files document diagnostics).2 =
          (fresh.quickFixes? files document diagnostics).2 := by
  intro later
  obtain ⟨isLanguage, rfl⟩ := create_eq_ok_iff.1 created
  refine ⟨_, create_eq_ok_iff.2 ⟨isLanguage, rfl⟩, ?_⟩
  intro fresh
  let seen := WorkspaceCall.optionsSeen initial calls
  have isSeen : ∀ settings ∈ initial :: calls.filterMap (·.settings?),
      settings.diagnostics.spelling ∈ seen := by
    intro settings isSettings
    exact List.mem_map.2 ⟨settings, isSettings, rfl⟩
  obtain ⟨initialSeen, laterSeen⟩ := List.forall_mem_cons.1 isSeen
  have atFirst : Workplace.Follows ⟨{ store := .ofSettings initial, configDirectory }, files⟩
      files configDirectory seen := ⟨rfl, rfl, initialSeen, .inl rfl⟩
  have atLast := atFirst.afterCalls leaves laterSeen alike
  have anew : Workplace.Follows ⟨fresh, files⟩ files configDirectory seen :=
    ⟨rfl, rfl, atLast.isSeen, .inl rfl⟩
  apply answers_eq
  · rfl
  · rfl
  · rw [atLast.checker?_eq alike, anew.checker?_eq alike]
    rfl

/-- A dictionary is lost, and then asked for again with another way to write its path. -/
theorem Workspace.answers_follow_settings_after_missing_dictionary :
    let settings (path : String) : Settings :=
      { diagnostics := { spelling := { dictionaryPath := some path } } }
    let files : FileTree := { entries := [(["words.txt"], .text "the\n")] }
    let document := Document.ofText "file:///game/chapter.txt" 1 "the zorblax"
    let workspace : Workspace := { store := .ofSettings (settings "/words.txt") }
    let calls : List WorkspaceCall := [.diagnose document, .configure (settings "/lost.txt"),
      .suggest ["teh"], .configure (settings "//./words.txt")]
    let later := ((⟨workspace, files⟩ : Workplace).afterCalls calls).workspace
    (create languageId (settings "/words.txt") none = .ok workspace ∧
      (∀ call ∈ calls, call.LeavesWords) ∧
      SpellingOptions.AllWriteAlike (WorkspaceCall.optionsSeen (settings "/words.txt") calls)) ∧
    ∃ fresh, create languageId later.settings none = .ok fresh ∧
      let fresh := { fresh with index := later.index }
      (∀ document, (later.diagnose files document).2 = (fresh.diagnose files document).2) ∧
        (∀ words, (later.suggest files words).2 = (fresh.suggest files words).2) ∧
        ∀ document diagnostics, (later.quickFixes? files document diagnostics).2 =
          (fresh.quickFixes? files document diagnostics).2 := by
  intro settings files document workspace calls later
  have created : create languageId (settings "/words.txt") none = .ok workspace := rfl
  have leaves : ∀ call ∈ calls, call.LeavesWords := by simp [calls, WorkspaceCall.LeavesWords]
  have alike : SpellingOptions.AllWriteAlike
      (WorkspaceCall.optionsSeen (settings "/words.txt") calls) := by decide +kernel
  exact ⟨⟨created, leaves, alike⟩,
    answers_follow_settings _ _ _ workspace created files calls leaves alike⟩

/-- A slash is put behind the path of a dictionary, with which it leads to no file: words are
still reported, where a new workspace has no dictionary and reports none. -/
theorem Workspace.dictionary_kept_behind_slash :
    let settings (path : String) : Settings :=
      { diagnostics := { spelling := { dictionaryPath := some path } } }
    let files : FileTree := { entries := [(["words.txt"], .text "the\n")] }
    let document := Document.ofText "file:///game/chapter.txt" 1 "the zorblax"
    let workspace : Workspace := { store := .ofSettings (settings "/words.txt") }
    let calls : List WorkspaceCall := [.diagnose document, .configure (settings "/words.txt/")]
    let later := ((⟨workspace, files⟩ : Workplace).afterCalls calls).workspace
    (create languageId (settings "/words.txt") none = .ok workspace ∧
      ∀ call ∈ calls, call.LeavesWords) ∧
    ∃ fresh, create languageId later.settings none = .ok fresh ∧
      (∃ diagnostic ∈ (later.diagnose files document).2, diagnostic.isOf .badSpelling = true) ∧
        ({ fresh with index := later.index }.diagnose files document).2 = [] := by
  intro settings files document workspace calls later
  let checker : SpellChecker := { dictionary := .insert {} "the" }
  let options : SpellingOptions := { dictionaryPath := some "/words.txt" }
  have content : files.read ⟨"/words.txt"⟩ = .ok "the\n" := by rfl
  have loaded : options.loadDictionary files = .ok checker.dictionary :=
    Dictionary.load_word content (by decide +kernel) (by decide +kernel) (by decide +kernel)
  have asks : workspace.settings.diagnostics.spelling = options := rfl
  have spellingLater : later.spelling = ⟨some options, some checker⟩ :=
    (spelling_withSpelling_of_due asks rfl rfl).trans (SpellingState.load_of_no_checker loaded rfl)
  have atLast : (later.withSpelling files).checker? = some checker := by
    have isLoaded : later.IsLoaded := by
      intro _ _
      rw [spellingLater]
      decide +kernel
    rw [withSpelling_of_isLoaded isLoaded rfl, checker?, spellingLater]
    rfl
  let word : Word := ⟨⟨4, "zorblax".toList⟩, false⟩
  let prose : Occurrence := ⟨.text, "the zorblax", ⟨0, 11⟩, 0⟩
  have isText : prose ∈ document.scene.occurrencesOf .text := by decide +kernel
  have unknown : checker.isKnown word.text = false :=
    SpellChecker.isKnown_of_word (by decide) (by decide) (by decide +kernel)
  obtain ⟨diagnostic, isDiagnostic, onSpelling, _⟩ := exists_diagnostic_of_unknown atLast isText
    (by decide +kernel) (by decide +kernel) unknown
  have leaves : ∀ call ∈ calls, call.LeavesWords := by simp [calls, WorkspaceCall.LeavesWords]
  let fresh : Workspace := { store := .ofSettings later.settings }
  refine ⟨⟨rfl, leaves⟩, fresh, rfl, ?_, ?_⟩
  · exact ⟨diagnostic, isDiagnostic, onSpelling⟩
  · have failed : fresh.settings.diagnostics.spelling.loadDictionary files = .error .file := by rfl
    have noChecker : ({ fresh with index := later.index }.withSpelling files).checker? = none :=
      checker?_withSpelling_of_error rfl rfl rfl failed
    rw [diagnose, List.map_eq_nil_iff, reports, noChecker]
    decide +kernel

end Gamebook
