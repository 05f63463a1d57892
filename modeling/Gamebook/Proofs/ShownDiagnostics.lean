import Gamebook.Proofs.WorkspaceCalls

/-!
# What is shown of a document

What a workspace shows of a document depends on the settings, on the other documents of the
project and on the dictionaries.  Once the dictionaries are the ones that the settings ask for,
loading them again changes nothing, and neither does a word that has been accepted before, nor
other settings that mean the same.
-/

namespace Gamebook

theorem SpellingState.options_load (state : SpellingState) (files : FileTree)
    (configDirectory : Option String) (options : SpellingOptions) :
    (state.load files configDirectory options).options = some options := by
  unfold load
  split
  · rfl
  · simp only
    split <;> rfl

namespace SpellChecker

variable {checker : SpellChecker} {word : String}

theorem isKnown_ignoreForSession (notNew : (checker.ignoreForSession word).2 = false) :
    (checker.ignoreForSession word).1.isKnown = checker.isKnown := by
  have wasThere : checker.session.contains (normalize word) = true := by
    simpa [ignoreForSession] using notNew
  funext other
  simp only [isKnown, ignoreForSession, Std.TreeSet.contains_insert]
  by_cases same : normalize word = normalize other
  · simp [← same, wasThere]
  · have isOther : (compare (normalize word) (normalize other) == .eq) = false :=
      beq_eq_false_iff_ne.2 fun equal => same (Std.LawfulEqCmp.compare_eq_iff_eq.1 equal)
    rw [isOther, Bool.false_or]

/-- To accept a word that was accepted before changes no report. -/
theorem check_ignoreForSession (notNew : (checker.ignoreForSession word).2 = false) :
    (checker.ignoreForSession word).1.check = checker.check := by
  funext scene
  simp only [check, unknownWords, isKnown_ignoreForSession notNew]

end SpellChecker

namespace Workspace

variable {workspace : Workspace}

/-- Unless diagnostics or spell checking are off, the dictionaries are the ones that the
settings ask for. -/
def IsLoaded (workspace : Workspace) : Prop :=
  workspace.isOn .diagnostics = true →
    workspace.settings.diagnostics.spelling.enabled = true →
      workspace.spelling.options.any
        (·.agree workspace.settings.diagnostics.spelling) = true

/-- What is to be shown for a document with the present dictionaries. -/
def shown (workspace : Workspace) (document : Document) : List Diagnostic :=
  if workspace.isOn .diagnostics = true then
    (workspace.reports document).map (.ofReport document.scene.source)
  else []

theorem length_shown (isOn : workspace.isOn .diagnostics = true) (document : Document) :
    (workspace.shown document).length =
      (validate document.scene ⟨document.uri.sceneName, (workspace.around document).scope⟩
          workspace.settings.diagnostics.validation).length +
        ((workspace.checker?.map (·.check document.scene)).getD []).length := by
  rw [shown, if_pos isOn, List.length_map, reports, List.length_mergeSort, List.length_append]

theorem shown_eq {first second : Workspace} {document : Document}
    (sameFeatures : first.settings.features = second.settings.features)
    (sameRules : first.settings.diagnostics.validation = second.settings.diagnostics.validation)
    (sameSpelling : first.checker?.map (·.check document.scene) =
      second.checker?.map (·.check document.scene))
    (alike : (first.around document).Alike (second.around document)) :
    first.shown document = second.shown document := by
  have sameSwitch : first.isOn .diagnostics = second.isOn .diagnostics := by
    rw [isOn, isOn, sameFeatures]
  have sameReports : first.reports document = second.reports document := by
    rw [reports, reports, sameRules, sameSpelling, alike.scope_eq]
  rw [shown, shown, sameSwitch, sameReports]

/-! ## Workspaces that show alike -/

/-- Nothing else is to be shown of any document, as long as the dictionaries are loaded. -/
structure ShowsAlike (before after : Workspace) : Prop where
  isLoaded : before.IsLoaded → after.IsLoaded
  shown : before.IsLoaded → ∀ document, after.shown document = before.shown document

theorem ShowsAlike.refl (workspace : Workspace) : ShowsAlike workspace workspace :=
  ⟨id, fun _ _ => rfl⟩

theorem ShowsAlike.trans {before middle after : Workspace} (first : ShowsAlike before middle)
    (second : ShowsAlike middle after) : ShowsAlike before after where
  isLoaded := fun isLoaded => second.isLoaded (first.isLoaded isLoaded)
  shown := fun isLoaded document =>
    (second.shown (first.isLoaded isLoaded) document).trans (first.shown isLoaded document)

theorem isOn_withSpelling (workspace : Workspace) (files : FileTree) (feature : Feature) :
    (workspace.withSpelling files).isOn feature = workspace.isOn feature := by
  rw [isOn, isOn, settings_withSpelling]

theorem isLoaded_withSpelling (workspace : Workspace) (files : FileTree) :
    (workspace.withSpelling files).IsLoaded := by
  intro _ isEnabled
  rw [settings_withSpelling] at isEnabled ⊢
  simp only [withSpelling, isEnabled, if_true, SpellingState.sync]
  by_cases isSynced : workspace.spelling.options.any
      (·.agree workspace.settings.diagnostics.spelling) = true
  · rw [if_pos isSynced]
    exact isSynced
  · rw [if_neg isSynced, SpellingState.options_load]
    simp [SpellingOptions.agree]

theorem withSpelling_of_isLoaded (isLoaded : workspace.IsLoaded)
    (isOn : workspace.isOn .diagnostics = true) (files : FileTree) :
    workspace.withSpelling files = workspace := by
  unfold withSpelling SpellingState.sync
  simp only
  split
  · rename_i isEnabled
    rw [if_pos (isLoaded isOn isEnabled)]
  · rfl

theorem showsAlike_withSpelling (workspace : Workspace) (files : FileTree) :
    ShowsAlike workspace (workspace.withSpelling files) where
  isLoaded := fun _ => workspace.isLoaded_withSpelling files
  shown := by
    intro isLoaded document
    by_cases isOn : workspace.isOn .diagnostics = true
    · rw [withSpelling_of_isLoaded isLoaded isOn]
    · rw [shown, shown, isOn_withSpelling, if_neg isOn, if_neg isOn]

theorem showsAlike_setChecker {checker other : SpellChecker}
    (found : workspace.checker? = some checker) (sameChecks : other.check = checker.check) :
    ShowsAlike workspace (workspace.setChecker other) where
  isLoaded := id
  shown := by
    intro _ document
    refine shown_eq rfl rfl ?_ (fun _ => rfl)
    have replaced : (workspace.setChecker other).checker? = some other :=
      if_pos (checker?_eq_some found).1
    rw [found, replaced, Option.map_some, Option.map_some, sameChecks]

theorem showsAlike_acceptWith {files : FileTree} {checker : SpellChecker}
    (found : workspace.checker? = some checker) {command : AcceptWord}
    (notNew : (workspace.acceptWith files checker command).outcome ≠ .ok true) :
    ShowsAlike workspace (workspace.acceptWith files checker command).workspace := by
  unfold acceptWith at notNew ⊢
  cases acceptanceEq : command.acceptance with
  | session =>
      have known : (checker.ignoreForSession command.word).2 = false := by
        simpa [acceptanceEq] using notNew
      exact showsAlike_setChecker found (SpellChecker.check_ignoreForSession known)
  | persistent =>
      cases additionEq : checker.addToUser files command.word with
      | added user written => simp [acceptanceEq, additionEq] at notNew
      | _ => exact .refl workspace

/-- A command after which no dictionary has changed leaves all diagnostics as they are. -/
theorem showsAlike_execute {files : FileTree} {name : String} {arguments : List Json}
    (notNew : (workspace.execute files name arguments).outcome ≠ .ok true) :
    ShowsAlike workspace (workspace.execute files name arguments).workspace := by
  have loaded := workspace.showsAlike_withSpelling files
  unfold execute at notNew ⊢
  cases callEq : AcceptWord.ofCall? name arguments with
  | none => exact .refl workspace
  | some command =>
      simp only [callEq] at notNew ⊢
      cases found : (workspace.withSpelling files).checker? with
      | none => exact loaded
      | some checker =>
          simp only [found] at notNew ⊢
          exact loaded.trans (showsAlike_acceptWith found notNew)

/-- Other settings that mean the same show the same. -/
theorem showsAlike_replace {settings : Settings}
    (sameDiagnostics : workspace.settings.diagnostics.normal = settings.diagnostics.normal)
    (sameFeatures : workspace.settings.features = settings.features) :
    ShowsAlike workspace { workspace with store := (workspace.store.replace settings).1 } := by
  obtain ⟨sameRules, sameSpelling⟩ : settings.diagnostics.validation =
        workspace.settings.diagnostics.validation ∧
      settings.diagnostics.spelling.normal = workspace.settings.diagnostics.spelling.normal :=
    DiagnosticOptions.mk.inj sameDiagnostics.symm
  have sameSwitch : settings.diagnostics.spelling.enabled =
      workspace.settings.diagnostics.spelling.enabled :=
    (SpellingOptions.mk.inj sameSpelling).1
  constructor
  · intro isLoaded isOn isEnabled
    have wasOn : workspace.isOn .diagnostics = true := by
      rw [Workspace.isOn, sameFeatures]
      exact isOn
    have agreed := isLoaded wasOn (sameSwitch ▸ isEnabled)
    simp only [SpellingOptions.agree, ← sameSpelling] at agreed
    exact agreed
  · intro _ document
    refine shown_eq sameFeatures.symm sameRules ?_ (fun _ => rfl)
    have sameChecker : Workspace.checker?
        { workspace with store := (workspace.store.replace settings).1 } = workspace.checker? := by
      rw [checker?, checker?, ← sameSwitch]
      rfl
    rw [sameChecker]

end Workspace

end Gamebook
