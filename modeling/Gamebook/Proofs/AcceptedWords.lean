import Gamebook.Proofs.WordPlaces
import Gamebook.Proofs.WorkspaceCalls

/-!
# Words accepted for the session

A word that has been accepted for the session is not reported any more, whatever is called
afterwards: the session's words stay when the dictionaries are loaded again.  They are kept
beside the main dictionary, though, and go with it when one that the settings ask for cannot
be loaded.  So the word is only safe as long as no call has to load a dictionary in vain.
-/

namespace Gamebook

def SpellingState.Accepts (state : SpellingState) (key : String) : Prop :=
  ∃ checker, state.checker = some checker ∧ checker.session.contains key = true

/-- The dictionary that the settings ask for has to be loaded and cannot be. -/
def Workspace.LosesDictionary (workspace : Workspace) (files : FileTree) : Prop :=
  let options := workspace.settings.diagnostics.spelling
  options.enabled = true ∧ workspace.spelling.options.any (·.agree options) = false ∧
    ∃ failure, options.loadDictionary files = .error failure

/-- No call loads a dictionary in vain. -/
def Workplace.KeepsDictionary (place : Workplace) (calls : List WorkspaceCall) : Prop :=
  ∀ earlier call later, calls = earlier ++ call :: later → call.consults = true →
    ¬ (place.afterCalls earlier).workspace.LosesDictionary (place.afterCalls earlier).files

/-! ## Loading dictionaries -/

namespace SpellingState

variable {state : SpellingState} {files : FileTree} {configDirectory : Option String}
  {options : SpellingOptions} {key : String}

theorem accepts_load {dictionary : Dictionary}
    (loaded : options.loadDictionary files = .ok dictionary) (accepts : state.Accepts key) :
    (state.load files configDirectory options).Accepts key := by
  obtain ⟨checker, checkerEq, isAccepted⟩ := accepts
  simp only [load, loaded, checkerEq]
  exact ⟨_, rfl, isAccepted⟩

end SpellingState

namespace Workspace

variable {workspace : Workspace} {files : FileTree} {key : String}

theorem accepts_withSpelling (keeps : ¬ workspace.LosesDictionary files)
    (accepts : workspace.spelling.Accepts key) :
    (workspace.withSpelling files).spelling.Accepts key := by
  unfold withSpelling SpellingState.sync
  simp only
  split
  · rename_i isEnabled
    split
    · exact accepts
    · rename_i isDue
      cases loaded : workspace.settings.diagnostics.spelling.loadDictionary files with
      | error failure =>
          exact absurd ⟨isEnabled, by simpa using isDue, failure, loaded⟩ keeps
      | ok dictionary => exact SpellingState.accepts_load loaded accepts
  · exact accepts

/-- Spell checking does not object to an accepted word: without a dictionary it objects to
nothing. -/
theorem diagnose_accepted (accepts : workspace.spelling.Accepts key) {document : Document}
    {diagnostic : Diagnostic} (isDiagnostic : diagnostic ∈ (workspace.diagnose files document).2)
    (onSpelling : diagnostic.isOf .badSpelling = true) :
    ∃ text, document.scene.source.textIn? diagnostic.range = some text ∧
      (∀ char ∈ text.toList, isWordChar char = true) ∧ normalize text ≠ key := by
  obtain ⟨checker, text, checkerEq, unknown, isProse, covers⟩ :=
    diagnose_spelling isDiagnostic onSpelling
  have keeps : ¬ workspace.LosesDictionary files := by
    rintro ⟨isEnabled, isDue, failure, failed⟩
    simp [checker?_withSpelling_of_error rfl isEnabled isDue failed] at checkerEq
  obtain ⟨accepting, acceptingEq, isAccepted⟩ := accepts_withSpelling keeps accepts
  obtain rfl : accepting = checker :=
    Option.some.inj (acceptingEq.symm.trans (checker?_eq_some checkerEq).2)
  refine ⟨text, covers, isProse, ?_⟩
  rintro rfl
  simp [SpellChecker.isKnown, isAccepted] at unknown

theorem execute_session {name word : String} {arguments : List Json} {checker : SpellChecker}
    (isCommand : AcceptWord.ofCall? name arguments = some ⟨.session, word⟩)
    (checkerEq : (workspace.withSpelling files).checker? = some checker) :
    workspace.execute files name arguments =
      ⟨(workspace.withSpelling files).setChecker (checker.ignoreForSession word).1, files,
        .ok (checker.ignoreForSession word).2⟩ := by
  simp only [execute, isCommand, checkerEq, acceptWith]

end Workspace

/-! ## Accepting a word, and all calls afterwards -/

theorem AcceptWord.ofCall?_session {name word : String} {command : AcceptWord}
    (accept : AcceptWord.ofCall? name [.string "session", .string word] = some command) :
    command = ⟨.session, trimBlanks word⟩ := by
  have isSession : Acceptance.find? "session" = some .session := by decide
  unfold ofCall? at accept
  obtain ⟨_, _, found⟩ := Option.bind_eq_some_iff.1 accept
  simp only [Json.string?, Option.bind_eq_bind, Option.bind_some, isSession] at found
  split at found
  · simp at found
  · exact (Option.some.inj found).symm

namespace SpellChecker

variable {checker : SpellChecker} {key word : String}

theorem contains_ignoreForSession :
    (checker.ignoreForSession word).1.session.contains key = true ↔
      normalize word = key ∨ checker.session.contains key = true := by
  simp [ignoreForSession, Std.TreeSet.contains_insert]

end SpellChecker

namespace Workplace

variable {place : Workplace} {call : WorkspaceCall} {key : String}

theorem accepts_perform (accepts : place.workspace.spelling.Accepts key)
    (keeps : call.consults = true → ¬ place.workspace.LosesDictionary place.files) :
    (place.perform call).workspace.spelling.Accepts key := by
  by_cases consults : call.consults = true
  · have synced : place.synced.Accepts key :=
      Workspace.accepts_withSpelling (keeps consults) accepts
    cases accept : call.acceptWord? with
    | none =>
        rw [spelling_perform_of_query consults accept]
        exact synced
    | some command =>
        rcases spelling_perform_of_acceptWord accept with same | ⟨checker, checkerEq, changed⟩
        · rw [same]
          exact synced
        · obtain ⟨accepting, acceptingEq, isAccepted⟩ := synced
          obtain rfl : accepting = checker := Option.some.inj (acceptingEq.symm.trans checkerEq)
          rcases changed with ignoring | ⟨user, withUser⟩
          · exact ⟨_, ignoring, SpellChecker.contains_ignoreForSession.2 (.inr isAccepted)⟩
          · exact ⟨_, withUser, isAccepted⟩
  · rw [spelling_perform_of_not_consults (by simpa using consults)]
    exact accepts

theorem accepts_afterCalls {calls : List WorkspaceCall}
    (accepts : place.workspace.spelling.Accepts key) (keeps : place.KeepsDictionary calls) :
    (place.afterCalls calls).workspace.spelling.Accepts key := by
  induction calls generalizing place with
  | nil => exact accepts
  | cons call rest ih =>
      apply ih (accepts_perform accepts (keeps [] call rest rfl))
      intro earlier next later restEq
      exact keeps (call :: earlier) next later (by rw [restEq, List.cons_append])

theorem accepts_execute_session {name word : String} {isNew : Bool}
    (accepted : (place.workspace.execute place.files name
      [.string "session", .string word]).outcome = .ok isNew) :
    (place.perform (.execute name
      [.string "session", .string word])).workspace.spelling.Accepts
        (normalize (trimBlanks word)) := by
  cases callEq : AcceptWord.ofCall? name [.string "session", .string word] with
  | none => simp [Workspace.execute, callEq] at accepted
  | some command =>
      obtain rfl := AcceptWord.ofCall?_session callEq
      cases checkerEq : (place.workspace.withSpelling place.files).checker? with
      | none => simp [Workspace.execute, callEq, checkerEq] at accepted
      | some checker =>
          simp only [perform, Workspace.execute_session callEq checkerEq]
          exact ⟨_, rfl, SpellChecker.contains_ignoreForSession.2 (.inl rfl)⟩

/-- A word accepted for the session stays accepted: unless a call has to load a dictionary
in vain, no later validation objects to it, however it is written there. -/
theorem session_word_stays_accepted (place : Workplace) (name word : String) (isNew : Bool)
    (accepted : (place.workspace.execute place.files name
      [.string "session", .string word]).outcome = .ok isNew)
    (calls : List WorkspaceCall)
    (keeps : (place.perform (.execute name
      [.string "session", .string word])).KeepsDictionary calls)
    (document : Document) :
    let later := (place.perform (.execute name [.string "session", .string word])).afterCalls calls
    ∀ diagnostic ∈ (later.workspace.diagnose later.files document).2,
      diagnostic.isOf .badSpelling = true →
        ∃ text, document.scene.source.textIn? diagnostic.range = some text ∧
          normalize text ≠ normalize word := by
  intro later diagnostic isDiagnostic onSpelling
  have accepts := accepts_afterCalls (accepts_execute_session accepted) keeps
  obtain ⟨text, covers, isProse, different⟩ :=
    Workspace.diagnose_accepted accepts isDiagnostic onSpelling
  refine ⟨text, covers, ?_⟩
  intro same
  rw [same, trimBlanks_of_normalize_eq isProse same] at different
  exact different rfl

/-- An accepted word is not reported under another built-in dictionary. -/
theorem accepted_word_under_british_dictionary :
    let british : Settings := { diagnostics := { spelling := { language := .british } } }
    let document := Document.ofText "file:///game/chapter.txt" 1 "Zorblax’s mare."
    let place : Workplace := ⟨{}, {}⟩
    let accept : WorkspaceCall :=
      .execute AcceptWord.commandName [.string "session", .string "zorblax's"]
    let calls : List WorkspaceCall := [.configure british, .diagnose document, .suggest ["mare"]]
    let later := (place.perform accept).afterCalls calls
    ((place.workspace.execute place.files AcceptWord.commandName
        [.string "session", .string "zorblax's"]).outcome = .ok true ∧
      (place.perform accept).KeepsDictionary calls) ∧
    ∀ diagnostic ∈ (later.workspace.diagnose later.files document).2,
      diagnostic.isOf .badSpelling = true →
        ∃ text, document.scene.source.textIn? diagnostic.range = some text ∧
          normalize text ≠ normalize "zorblax's" := by
  intro british document place accept calls later
  have accepted : (place.workspace.execute place.files AcceptWord.commandName
      [.string "session", .string "zorblax's"]).outcome = .ok true := by
    rfl
  have keeps : (place.perform accept).KeepsDictionary calls := by
    intro earlier call later callsEq consults loses
    obtain ⟨_, _, failure, failed⟩ := loses
    match earlier, callsEq with
    | [], callsEq =>
        obtain ⟨rfl, _⟩ := List.cons.inj callsEq
        exact absurd consults (by decide)
    | [first], callsEq =>
        obtain ⟨rfl, _⟩ := List.cons.inj callsEq
        nomatch failed
    | [first, second], callsEq =>
        obtain ⟨rfl, restEq⟩ := List.cons.inj callsEq
        obtain ⟨rfl, _⟩ := List.cons.inj restEq
        nomatch failed
    | first :: second :: third :: rest, callsEq => simp [calls] at callsEq
  exact ⟨⟨accepted, keeps⟩,
    session_word_stays_accepted place _ _ true accepted calls keeps document⟩

/-- A dictionary that cannot be loaded in between: the accepted word is reported again. -/
theorem accepted_word_reported_after_missing_dictionary :
    let settings (path : String) : Settings :=
      { diagnostics := { spelling := { dictionaryPath := some path } } }
    let document := Document.ofText "file:///game/chapter.txt" 1 "the zorblax"
    let place : Workplace :=
      ⟨{ store := .ofSettings (settings "/words.txt") },
        { entries := [(["words.txt"], .text "the\n")] }⟩
    let accept : WorkspaceCall :=
      .execute AcceptWord.commandName [.string "session", .string "zorblax"]
    let later := (place.perform accept).afterCalls
      [.configure (settings "/lost.txt"), .diagnose document, .configure (settings "/words.txt")]
    (place.workspace.execute place.files AcceptWord.commandName
      [.string "session", .string "zorblax"]).outcome = .ok true ∧
    ∃ diagnostic ∈ (later.workspace.diagnose later.files document).2,
      diagnostic.isOf .badSpelling = true ∧
        document.scene.source.textIn? diagnostic.range = some "zorblax" := by
  intro settings document place accept later
  let checker : SpellChecker := { dictionary := .insert {} "the" }
  let words : SpellingOptions := { dictionaryPath := some "/words.txt" }
  let lost : SpellingOptions := { dictionaryPath := some "/lost.txt" }
  have content : place.files.read ⟨"/words.txt"⟩ = .ok "the\n" := by rfl
  have loaded : words.loadDictionary place.files = .ok checker.dictionary :=
    Dictionary.load_word content (by decide +kernel) (by decide +kernel) (by decide +kernel)
  have failed : lost.loadDictionary place.files = .error .file := by rfl
  have asks : place.workspace.settings.diagnostics.spelling = words := rfl
  have atFirst : (place.workspace.withSpelling place.files).checker? = some checker :=
    Workspace.checker?_withSpelling_of_due asks rfl rfl rfl loaded
  have isCommand : AcceptWord.ofCall? AcceptWord.commandName
      [.string "session", .string "zorblax"] = some ⟨.session, "zorblax"⟩ := by
    rfl
  have executed := Workspace.execute_session isCommand atFirst
  -- the settings ask for a file that is not there
  let confused := (place.perform accept).perform (.configure (settings "/lost.txt"))
  have sameFiles : confused.files = place.files := by
    simp only [confused, perform, accept, executed]
  have isLost : confused.synced = ⟨some lost, none⟩ := by
    have wasLoaded : confused.workspace.spelling.options = some words := by
      simp only [confused, perform, accept, executed, Workspace.setChecker]
      rw [Workspace.spelling_withSpelling_of_due asks rfl rfl,
        SpellingState.load_of_no_checker loaded rfl]
    have isDue : confused.workspace.spelling.options.any (·.agree lost) = false := by
      rw [wasLoaded]
      decide
    rw [synced, Workspace.spelling_withSpelling_of_due rfl rfl isDue, sameFiles]
    exact SpellingState.load_of_error failed
  -- and then for the first one again
  have spellingLater : later.workspace.spelling = ⟨some lost, none⟩ := isLost
  have filesLater : later.files = place.files := sameFiles
  have directoryLater : later.workspace.configDirectory = none := by
    rw [configDirectory_afterCalls, configDirectory_perform]
  have atLast : (later.workspace.withSpelling later.files).checker? = some checker := by
    have asksAgain : later.workspace.settings.diagnostics.spelling = words := rfl
    rw [filesLater, Workspace.checker?_withSpelling_of_due asksAgain rfl
      (by rw [spellingLater]; decide) (by rw [spellingLater]) loaded, directoryLater]
    rfl
  let word : Word := ⟨⟨4, "zorblax".toList⟩, false⟩
  let prose : Occurrence := ⟨.text, "the zorblax", ⟨0, 11⟩, 0⟩
  have isText : prose ∈ document.scene.occurrencesOf .text := by decide +kernel
  have unknown : checker.isKnown word.text = false :=
    SpellChecker.isKnown_of_word (by decide) (by decide) (by decide +kernel)
  exact ⟨by rw [executed]; rfl, Workspace.exists_diagnostic_of_unknown atLast isText
    (by decide +kernel) (by decide +kernel) unknown⟩

end Workplace

end Gamebook
