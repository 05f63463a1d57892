import Gamebook.Proofs.ProjectIsolation
import Gamebook.Server.Workspace

/-!
# Calls on a workspace

A workspace is used by one call after another, and the files it reads and writes may change
in between.  A call touches the dictionaries in one of three ways: it leaves them alone, it
loads what the settings ask for, or it accepts a word once that has been loaded.
-/

namespace Gamebook

/-! ## Loading dictionaries -/

namespace SpellingState

variable {state : SpellingState} {files : FileTree} {configDirectory : Option String}
  {options : SpellingOptions}

theorem load_of_error {failure : DictionaryFailure}
    (failed : options.loadDictionary files = .error failure) :
    state.load files configDirectory options = ⟨some options, none⟩ := by
  simp only [load, failed]

theorem load_of_no_checker {dictionary : Dictionary}
    (loaded : options.loadDictionary files = .ok dictionary) (noChecker : state.checker = none) :
    state.load files configDirectory options =
      ⟨some options,
        some { dictionary, user := options.loadUserDictionary files configDirectory }⟩ := by
  simp only [load, loaded, noChecker]

end SpellingState

namespace Workspace

variable {workspace : Workspace} {files : FileTree} {options : SpellingOptions}

theorem spelling_withSpelling_of_due
    (asks : workspace.settings.diagnostics.spelling = options) (isEnabled : options.enabled = true)
    (isDue : workspace.spelling.options.any (·.agree options) = false) :
    (workspace.withSpelling files).spelling =
      workspace.spelling.load files workspace.configDirectory options := by
  simp [withSpelling, asks, isEnabled, SpellingState.sync, isDue]

/-- A checker that is made anew knows no words of the session. -/
theorem checker?_withSpelling_of_due {dictionary : Dictionary}
    (asks : workspace.settings.diagnostics.spelling = options) (isEnabled : options.enabled = true)
    (isDue : workspace.spelling.options.any (·.agree options) = false)
    (noChecker : workspace.spelling.checker = none)
    (loaded : options.loadDictionary files = .ok dictionary) :
    (workspace.withSpelling files).checker? =
      some { dictionary
             user := options.loadUserDictionary files workspace.configDirectory } := by
  rw [checker?, settings_withSpelling, asks, if_pos isEnabled,
    spelling_withSpelling_of_due asks isEnabled isDue,
    SpellingState.load_of_no_checker loaded noChecker]

theorem checker?_withSpelling_of_error {failure : DictionaryFailure}
    (asks : workspace.settings.diagnostics.spelling = options) (isEnabled : options.enabled = true)
    (isDue : workspace.spelling.options.any (·.agree options) = false)
    (failed : options.loadDictionary files = .error failure) :
    (workspace.withSpelling files).checker? = none := by
  rw [checker?, settings_withSpelling, asks, if_pos isEnabled,
    spelling_withSpelling_of_due asks isEnabled isDue, SpellingState.load_of_error failed]

theorem store_withSpelling (workspace : Workspace) (files : FileTree) :
    (workspace.withSpelling files).store = workspace.store := by
  unfold withSpelling
  simp only
  split <;> rfl

theorem configDirectory_withSpelling (workspace : Workspace) (files : FileTree) :
    (workspace.withSpelling files).configDirectory = workspace.configDirectory := by
  unfold withSpelling
  simp only
  split <;> rfl

/-- A command changes nothing but the dictionaries. -/
theorem execute_frame (workspace : Workspace) (files : FileTree) (name : String)
    (arguments : List Json) :
    let after := (workspace.execute files name arguments).workspace
    after.store = workspace.store ∧ after.index = workspace.index ∧
      after.configDirectory = workspace.configDirectory := by
  have loaded := And.intro (workspace.store_withSpelling files)
    (And.intro (workspace.index_withSpelling files) (workspace.configDirectory_withSpelling files))
  unfold execute
  split
  · exact ⟨rfl, rfl, rfl⟩
  · simp only
    split
    · exact loaded
    · unfold acceptWith
      split
      · exact loaded
      · split <;> exact loaded

end Workspace

/-! ## Calls -/

/-- What a workspace is asked to do, or what else happens to the files.  Queries that need no
dictionary leave the workspace as it is and are left out. -/
inductive WorkspaceCall where
  | configure (settings : Settings)
  | update (documents : List Document)
  | purge (uris : List Uri)
  | diagnose (document : Document)
  | suggest (words : List String)
  | quickFixes (document : Document) (diagnostics : List Diagnostic)
  | execute (name : String) (arguments : List Json)
  /-- Another program writes to the disk. -/
  | alterFiles (files : FileTree)

namespace WorkspaceCall

def acceptWord? : WorkspaceCall → Option AcceptWord
  | execute name arguments => AcceptWord.ofCall? name arguments
  | _ => none

/-- Whether a call needs the dictionaries. -/
def consults : WorkspaceCall → Bool
  | diagnose _ | suggest _ | quickFixes .. => true
  | execute name arguments => (AcceptWord.ofCall? name arguments).isSome
  | configure _ | update _ | purge _ | alterFiles _ => false

end WorkspaceCall

/-- A workspace and the files it reads and writes. -/
structure Workplace where
  workspace : Workspace
  files : FileTree

namespace Workplace

variable {place : Workplace} {call : WorkspaceCall}

def perform (place : Workplace) : WorkspaceCall → Workplace
  | .configure settings =>
      let store := (place.workspace.store.replace settings).1
      { place with workspace := { place.workspace with store } }
  | .update documents => { place with workspace := place.workspace.updateIndex documents }
  | .purge uris => { place with workspace := place.workspace.purgeIndex uris }
  | .diagnose document =>
      { place with workspace := (place.workspace.diagnose place.files document).1 }
  | .suggest words => { place with workspace := (place.workspace.suggest place.files words).1 }
  | .quickFixes document diagnostics =>
      { place with
        workspace := (place.workspace.quickFixes? place.files document diagnostics).1 }
  | .execute name arguments =>
      let accepted := place.workspace.execute place.files name arguments
      ⟨accepted.workspace, accepted.files⟩
  | .alterFiles files => { place with files }

/-- What some calls, one after the other, leave behind. -/
def afterCalls (place : Workplace) (calls : List WorkspaceCall) : Workplace :=
  calls.foldl perform place

/-- The dictionaries that a call needs. -/
def synced (place : Workplace) : SpellingState :=
  (place.workspace.withSpelling place.files).spelling

theorem afterCalls_cons (place : Workplace) (call : WorkspaceCall) (calls : List WorkspaceCall) :
    place.afterCalls (call :: calls) = (place.perform call).afterCalls calls := rfl

theorem spelling_perform_of_not_consults (idle : call.consults = false) :
    (place.perform call).workspace.spelling = place.workspace.spelling := by
  cases call with
  | execute name arguments =>
      have notAccept : AcceptWord.ofCall? name arguments = none := by
        simpa [WorkspaceCall.consults] using idle
      simp [perform, Workspace.execute, notAccept]
  | configure _ | update _ | purge _ | alterFiles _ => rfl
  | diagnose _ | suggest _ | quickFixes _ _ => simp [WorkspaceCall.consults] at idle

theorem spelling_perform_of_query (consults : call.consults = true)
    (noWord : call.acceptWord? = none) :
    (place.perform call).workspace.spelling = place.synced := by
  cases call with
  | diagnose _ | suggest _ | quickFixes _ _ => rfl
  | execute name arguments =>
      have isAccept : (AcceptWord.ofCall? name arguments).isSome = true := consults
      have notAccept : AcceptWord.ofCall? name arguments = none := noWord
      simp [notAccept] at isAccept
  | configure _ | update _ | purge _ | alterFiles _ => simp [WorkspaceCall.consults] at consults

theorem configDirectory_perform (place : Workplace) (call : WorkspaceCall) :
    (place.perform call).workspace.configDirectory = place.workspace.configDirectory := by
  cases call with
  | configure _ | update _ | purge _ | alterFiles _ => rfl
  | diagnose _ | suggest _ | quickFixes _ _ =>
      exact place.workspace.configDirectory_withSpelling place.files
  | execute name arguments =>
      exact (place.workspace.execute_frame place.files name arguments).2.2

theorem configDirectory_afterCalls (place : Workplace) (calls : List WorkspaceCall) :
    (place.afterCalls calls).workspace.configDirectory = place.workspace.configDirectory := by
  induction calls generalizing place with
  | nil => rfl
  | cons call rest ih =>
      rw [afterCalls_cons, ih, configDirectory_perform]

/-- Accepting a word adds it to the session or to the user's dictionary, and takes nothing
out of the session. -/
theorem spelling_perform_of_acceptWord {command : AcceptWord}
    (isAccept : call.acceptWord? = some command) :
    (place.perform call).workspace.spelling = place.synced ∨
      ∃ checker, place.synced.checker = some checker ∧
        ((place.perform call).workspace.spelling.checker =
            some (checker.ignoreForSession command.word).1 ∨
          ∃ user, (place.perform call).workspace.spelling.checker =
            some { checker with user }) := by
  cases call with
  | execute name arguments =>
      have accept : AcceptWord.ofCall? name arguments = some command := isAccept
      simp only [perform, Workspace.execute, accept]
      cases checkerEq : (place.workspace.withSpelling place.files).checker? with
      | none => exact .inl rfl
      | some checker =>
          have loaded : place.synced.checker = some checker :=
            (Workspace.checker?_eq_some checkerEq).2
          simp only [Workspace.acceptWith]
          cases command.acceptance with
          | session => exact .inr ⟨checker, loaded, .inl rfl⟩
          | persistent =>
              cases checker.addToUser place.files command.word with
              | known => exact .inl rfl
              | added user files => exact .inr ⟨checker, loaded, .inr ⟨user, rfl⟩⟩
              | failed files => exact .inl rfl
  | configure _ | update _ | purge _ | alterFiles _ | diagnose _ | suggest _ | quickFixes _ _ =>
      simp [WorkspaceCall.acceptWord?] at isAccept

end Workplace

end Gamebook
