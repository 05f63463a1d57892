import Gamebook.Editor.Completion
import Gamebook.Editor.Hover
import Gamebook.Editor.Outlining
import Gamebook.Editor.QuickFix
import Gamebook.Editor.Typing
import Gamebook.Project.Index
import Gamebook.Settings.Store

/-!
# The workspace

A workspace answers every question about documents.  It has the settings, the index of all
projects and the dictionaries.  The dictionaries follow the settings: they are loaded when they are
first needed and again when the options have changed.
-/

namespace Gamebook

/-- What a workspace refuses to do. -/
inductive WorkspaceError where
  | unsupportedLanguage (language : String)
  | invalidCommand (name : String)
  /-- A word cannot be accepted while spell checking is off or has no dictionary. -/
  | spellingUnavailable
  | dictionary (path : String)
deriving DecidableEq, Repr

namespace WorkspaceError

def message : WorkspaceError → String
  | unsupportedLanguage language => s!"unsupported language id '{language}'"
  | invalidCommand name => s!"invalid command '{name}'"
  | spellingUnavailable => "spell checking is not available"
  | dictionary path => s!"dictionary file {path}: cannot be written"

end WorkspaceError

def SpellingOptions.loadDictionary (options : SpellingOptions) (files : FileTree) :
    Except DictionaryFailure Dictionary :=
  match options.dictionaryPath with
  | some path => Dictionary.load files path
  | none => .ok (.builtin options.language)

/-- Where accepted words are kept below the user's configuration directory. -/
def defaultUserDictionary (configDirectory : String) : String :=
  configDirectory ++ "/choicescript/user_dictionary.txt"

/-- The user's dictionary that the options ask for.  One that cannot be read is kept in memory. -/
def SpellingOptions.loadUserDictionary (options : SpellingOptions) (files : FileTree)
    (configDirectory : Option String) : UserDictionary :=
  match options.userDictionaryPath.or (configDirectory.map defaultUserDictionary) with
  | none => .inMemory
  | some path => (UserDictionary.load files path).toOption.getD .inMemory

/-- The dictionaries and the options they were loaded for. -/
structure SpellingState where
  options : Option SpellingOptions := none
  checker : Option SpellChecker := none

namespace SpellingState

/-- Loads what the options ask for.  Without a main dictionary there is no checker; otherwise words
accepted before stay accepted, and the user's dictionary is only loaded from another file. -/
def load (state : SpellingState) (files : FileTree) (configDirectory : Option String)
    (options : SpellingOptions) : SpellingState :=
  match options.loadDictionary files with
  | .error _ => ⟨some options, none⟩
  | .ok dictionary =>
      let sameUser := state.options.any fun previous =>
        previous.normal.userDictionaryPath = options.normal.userDictionaryPath
      match state.checker with
      | some checker =>
          let user :=
            if sameUser then checker.user else options.loadUserDictionary files configDirectory
          ⟨some options, some { checker with dictionary, user }⟩
      | none =>
          ⟨some options,
            some { dictionary, user := options.loadUserDictionary files configDirectory }⟩

/-- Loads what the options ask for, unless that has been done. -/
def sync (state : SpellingState) (files : FileTree) (configDirectory : Option String)
    (options : SpellingOptions) : SpellingState :=
  if state.options.any (·.agree options) then state
  else state.load files configDirectory options

end SpellingState

/-- Settings, the index of all projects and the dictionaries. -/
structure Workspace where
  store : SettingsStore := {}
  index : ProjectIndex := {}
  spelling : SpellingState := {}
  configDirectory : Option String := none

namespace Workspace

def create (language : String) (settings : Settings) (configDirectory : Option String) :
    Except WorkspaceError Workspace :=
  if language = languageId then .ok { store := .ofSettings settings, configDirectory }
  else .error (.unsupportedLanguage language)

def settings (workspace : Workspace) : Settings :=
  workspace.store.current

def isOn (workspace : Workspace) (feature : Feature) : Bool :=
  workspace.settings.features.isOn feature

/-! ## The index -/

def updateIndex (workspace : Workspace) (documents : List Document) : Workspace :=
  { workspace with index := workspace.index.update documents }

def purgeIndex (workspace : Workspace) (uris : List Uri) : Workspace :=
  { workspace with index := workspace.index.purge uris }

/-- The project of a document with its current text. -/
def around (workspace : Workspace) (document : Document) : ProjectSnapshot :=
  workspace.index.around document

/-! ## Queries -/

def hover? (workspace : Workspace) (document : Document) (position : Position) : Option Hover :=
  (workspace.around document).hover? document.uri position

def definition? (workspace : Workspace) (document : Document) (position : Position) :
    Option Location :=
  (workspace.around document).definition? document.uri position

def references? (workspace : Workspace) (document : Document) (position : Position)
    (includeDeclaration : Bool) : Option (List Location) :=
  (workspace.around document).referenceLocations? document.uri position includeDeclaration

def highlights? (workspace : Workspace) (document : Document) (position : Position) :
    Option (List Highlight) :=
  (workspace.around document).highlights? document.uri position

/-- The declarations of a document and, if wanted, of the startup scene. -/
def symbols? (workspace : Workspace) (document : Document) (includeGlobals : Bool) :
    Option (List DocumentSymbol) :=
  (workspace.around document).symbols? document.uri includeGlobals

def complete? (workspace : Workspace) (document : Document) (position : Position) :
    Option Completion :=
  (workspace.around document).complete? document.uri position

def folds? (workspace : Workspace) (document : Document) : Option (List Fold) :=
  (workspace.around document).folds? document.uri

/-! ## Spelling and diagnostics -/

/-- The workspace with the dictionaries that the settings ask for. -/
def withSpelling (workspace : Workspace) (files : FileTree) : Workspace :=
  let options := workspace.settings.diagnostics.spelling
  if options.enabled then
    { workspace with spelling := workspace.spelling.sync files workspace.configDirectory options }
  else
    workspace

/-- The spell checker, unless spell checking is off or has no dictionary. -/
def checker? (workspace : Workspace) : Option SpellChecker :=
  if workspace.settings.diagnostics.spelling.enabled then workspace.spelling.checker else none

/-- Whether a report comes before another: by its start, then by its end. -/
def reportBefore (first second : Report) : Bool :=
  first.span.start < second.span.start ||
    (first.span.start == second.span.start && first.span.stop ≤ second.span.stop)

def reports (workspace : Workspace) (document : Document) : List Report :=
  let project := workspace.around document
  let structural := validate document.scene ⟨document.uri.sceneName, project.scope⟩
    workspace.settings.diagnostics.validation
  let spelling := (workspace.checker?.map (·.check document.scene)).getD []
  (structural ++ spelling).mergeSort reportBefore

/-- The diagnostics of a document, with the dictionaries loaded if need be. -/
def diagnose (workspace : Workspace) (files : FileTree) (document : Document) :
    Workspace × List Diagnostic :=
  let workspace := workspace.withSpelling files
  (workspace, (workspace.reports document).map (.ofReport document.scene.source))

/-- Corrections of words; none for any word while spell checking is off. -/
def suggest (workspace : Workspace) (files : FileTree) (words : List String) :
    Workspace × List (List String) :=
  let workspace := workspace.withSpelling files
  (workspace, words.map fun word => (workspace.checker?.map (·.suggest word)).getD [])

/-- Quick fixes for the first diagnostic on spelling. -/
def quickFixes? (workspace : Workspace) (files : FileTree) (document : Document)
    (diagnostics : List Diagnostic) : Workspace × Option QuickFixes :=
  let workspace := workspace.withSpelling files
  (workspace, workspace.checker?.bind (·.quickFixes? document.scene diagnostics))

def setChecker (workspace : Workspace) (checker : SpellChecker) : Workspace :=
  { workspace with spelling := { workspace.spelling with checker := some checker } }

structure Accepted where
  workspace : Workspace
  files : FileTree
  /-- Whether the word is new, or why it was not accepted. -/
  outcome : Except WorkspaceError Bool

def acceptWith (workspace : Workspace) (files : FileTree) (checker : SpellChecker)
    (command : AcceptWord) : Accepted :=
  match command.acceptance with
  | .session =>
      let (checker, isNew) := checker.ignoreForSession command.word
      ⟨workspace.setChecker checker, files, .ok isNew⟩
  | .persistent =>
      match checker.addToUser files command.word with
      | .known => ⟨workspace, files, .ok false⟩
      | .added user files => ⟨workspace.setChecker { checker with user }, files, .ok true⟩
      | .failed files => ⟨workspace, files, .error (.dictionary (checker.user.path.getD ""))⟩

/-- Runs a command, and tells whether a dictionary changed. -/
def execute (workspace : Workspace) (files : FileTree) (name : String) (arguments : List Json) :
    Accepted :=
  match AcceptWord.ofCall? name arguments with
  | none => ⟨workspace, files, .error (.invalidCommand name)⟩
  | some command =>
      let workspace := workspace.withSpelling files
      match workspace.checker? with
      | none => ⟨workspace, files, .error .spellingUnavailable⟩
      | some checker => workspace.acceptWith files checker command

end Workspace

end Gamebook
