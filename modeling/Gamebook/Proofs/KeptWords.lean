import Gamebook.Editor.QuickFix
import Gamebook.Proofs.WordFiles

/-!
# Words kept for good

A command that keeps a word for good writes the file of the user's dictionary anew.  Until the
first word is written the file is the one that was loaded; afterwards it is what the dictionary
in memory is written as.  Commands bring words without blanks at their ends, so the file gives
them back when it is loaded again, unless one of them has a line feed inside.
-/

namespace Gamebook

theorem AcceptWord.isEntry_of_ofCall? {name : String} {arguments : List Json}
    {command : AcceptWord} (isCommand : ofCall? name arguments = some command) :
    UserDictionary.IsEntry command.word := by
  unfold ofCall? at isCommand
  obtain ⟨_, _, found⟩ := Option.bind_eq_some_iff.1 isCommand
  split at found
  · obtain ⟨acceptance, _, inner⟩ := Option.bind_eq_some_iff.1 found
    obtain ⟨word, _, isWord⟩ := Option.bind_eq_some_iff.1 inner
    obtain ⟨notEmpty, commandEq⟩ := Option.ite_none_left_eq_some.1 isWord
    obtain rfl := Option.some.inj commandEq
    exact UserDictionary.isEntry_trimChars (by simpa using notEmpty)
  · cases found

namespace UserDictionary

variable {files : FileTree} {path : String} {user : UserDictionary}

/-- The file at the path has the words of the dictionary, or what they are written as. -/
structure Stored (files : FileTree) (path : String) (user : UserDictionary) : Prop where
  pathEq : user.path = some path
  areEntries : ∀ word ∈ user.words, IsEntry word ∧ lowerText word = word
  onDisk : load files path = .ok user ∨ files.read ⟨path⟩ = .ok user.render

theorem load_spec (isLoaded : load files path = .ok user) :
    ∀ word ∈ user.words, IsEntry word ∧ lowerText word = word ∧ '\n' ∉ word.toList := by
  unfold load at isLoaded
  split at isLoaded
  · obtain rfl := Except.ok.inj isLoaded
    exact fun word => wordsOfText_spec
  · obtain rfl := Except.ok.inj isLoaded
    simp
  · cases isLoaded

theorem stored_load (isLoaded : load files path = .ok user) : Stored files path user where
  pathEq := path_load isLoaded
  areEntries := by
    intro word isWord
    obtain ⟨isEntry, lowerEq, _⟩ := load_spec isLoaded word isWord
    exact ⟨isEntry, lowerEq⟩
  onDisk := .inl isLoaded

theorem Stored.reload (isStored : Stored files path user) :
    ∃ reloaded, load files path = .ok reloaded ∧
      ((∀ key, key ∈ reloaded.words ↔ key ∈ user.words) ↔
        ∀ word ∈ user.words, '\n' ∉ word.toList) := by
  rcases isStored.onDisk with isLoaded | content
  · refine ⟨user, isLoaded, iff_of_true (fun _ => Iff.rfl) ?_⟩
    exact fun word isWord => (load_spec isLoaded word isWord).2.2
  · exact ⟨_, load_of_content content, wordsOfText_render_iff isStored.areEntries⟩

end UserDictionary

namespace SpellChecker

open UserDictionary (Stored IsEntry)

variable {checker later : SpellChecker} {files written : FileTree} {path word key : String}
  {words : List String}

/-- Accepts words for good one after the other; none when one of them cannot be kept. -/
def keepAll? (checker : SpellChecker) (files : FileTree) :
    List String → Option (SpellChecker × FileTree)
  | [] => some (checker, files)
  | word :: rest => do
      let addition := checker.addToUser files word
      let user ← addition.kept? checker.user
      { checker with user }.keepAll? (addition.filesFrom files) rest

theorem stored_addToUser {user : UserDictionary} (isStored : Stored files path checker.user)
    (isEntry : IsEntry word)
    (isKept : (checker.addToUser files word).kept? checker.user = some user) :
    Stored ((checker.addToUser files word).filesFrom files) path user := by
  rcases UserDictionary.kept?_cases isKept with ⟨_, rfl, filesEq⟩ | ⟨succeeded, rfl, filesEq⟩
  · rwa [addToUser, filesEq]
  · refine ⟨isStored.pathEq, ?_, .inr ?_⟩
    · intro other isWord
      rcases (mem_words_addToUser isKept).1 isWord with wasThere | rfl
      · exact isStored.areEntries other wasThere
      · exact ⟨isEntry.lowered (lowered_normalize word), lowerText_normalize word⟩
    · rw [addToUser, filesEq]
      exact FileTree.read_eq_ok_iff.2 (UserDictionary.fileAt?_of_added isStored.pathEq succeeded)

/-- What one word preserves, all of them preserve. -/
theorem keepAll?_spec (isStored : Stored files path checker.user)
    (areEntries : ∀ word ∈ words, IsEntry word)
    (isKept : checker.keepAll? files words = some (later, written)) :
    Stored written path later.user ∧
      ∀ key, key ∈ later.user.words ↔
        key ∈ checker.user.words ∨ ∃ word ∈ words, normalize word = key := by
  induction words generalizing checker files with
  | nil =>
      obtain ⟨rfl, rfl⟩ := Prod.mk.inj (Option.some.inj isKept)
      exact ⟨isStored, by simp⟩
  | cons word rest ih =>
      obtain ⟨user, isUser, restKept⟩ := Option.bind_eq_some_iff.1 isKept
      obtain ⟨isEntry, restEntries⟩ := List.forall_mem_cons.1 areEntries
      obtain ⟨laterStored, laterWords⟩ :=
        ih (stored_addToUser isStored isEntry isUser) restEntries restKept
      refine ⟨laterStored, fun key => ?_⟩
      rw [laterWords, mem_words_addToUser isUser, or_assoc, List.exists_mem_cons_iff, eq_comm]

/-- Words that commands have kept for good are in the file as in memory, exactly if none of the
commands brought a line feed inside a word. -/
theorem kept_words_reload (files written : FileTree) (path : String)
    (checker later : SpellChecker) (words : List String)
    (isLoaded : UserDictionary.load files path = .ok checker.user)
    (areCommands : ∀ word ∈ words, ∃ name arguments,
      AcceptWord.ofCall? name arguments = some ⟨.persistent, word⟩)
    (areKept : checker.keepAll? files words = some (later, written)) :
    (∀ key, key ∈ later.user.words ↔
      key ∈ checker.user.words ∨ ∃ word ∈ words, normalize word = key) ∧
    ∃ reloaded, UserDictionary.load written path = .ok reloaded ∧
      ((∀ key, key ∈ reloaded.words ↔ key ∈ later.user.words) ↔
        ∀ word ∈ words, '\n' ∉ word.toList) := by
  have areEntries : ∀ word ∈ words, IsEntry word := by
    intro word isWord
    obtain ⟨_, _, isCommand⟩ := areCommands word isWord
    exact AcceptWord.isEntry_of_ofCall? isCommand
  obtain ⟨laterStored, laterWords⟩ :=
    keepAll?_spec (UserDictionary.stored_load isLoaded) areEntries areKept
  obtain ⟨reloaded, isReloaded, sameIff⟩ := laterStored.reload
  refine ⟨laterWords, reloaded, isReloaded, sameIff.trans ?_⟩
  have feedIff : ∀ word : String, '\n' ∈ (normalize word).toList ↔ '\n' ∈ word.toList :=
    fun word => (lowered_normalize word).mem_iff_of_isBlank (by decide)
  constructor
  · intro oneLine word isWord
    rw [← feedIff]
    exact oneLine _ ((laterWords _).2 (.inr ⟨word, isWord, rfl⟩))
  · intro oneLine key isKey
    rcases (laterWords key).1 isKey with wasThere | ⟨word, isWord, rfl⟩
    · exact (UserDictionary.load_spec isLoaded key wasThere).2.2
    · rw [feedIff]
      exact oneLine word isWord

/-- Two words, one of them in capitals with a sigma at its end, the other with a curly apostrophe
and blanks around it. -/
theorem kept_words_reload_in_other_form :
    let checker : SpellChecker := { dictionary := {}, user := { path := some "/user.txt" } }
    let extended := (checker.user.extend "οδοσ").extend "zorblax's"
    let written : FileTree := { entries := [(["user.txt"], .text "zorblax's\nοδοσ\n")] }
    (UserDictionary.load {} "/user.txt" = .ok checker.user ∧
      AcceptWord.ofCall? AcceptWord.commandName [.string "persistent", .string "ΟΔΟΣ"] =
        some ⟨.persistent, "ΟΔΟΣ"⟩ ∧
      AcceptWord.ofCall? AcceptWord.commandName [.string "persistent", .string " Zorblax’s\n"] =
        some ⟨.persistent, "Zorblax’s"⟩ ∧
      checker.keepAll? {} ["ΟΔΟΣ", "Zorblax’s"] =
        some ({ checker with user := extended }, written)) ∧
    ∃ reloaded, UserDictionary.load written "/user.txt" = .ok reloaded ∧
      ∀ key, key ∈ reloaded.words ↔ key ∈ extended.words := by
  intro checker extended written
  have isLoaded : UserDictionary.load {} "/user.txt" = .ok checker.user := by rfl
  have isFirst : AcceptWord.ofCall? AcceptWord.commandName
      [.string "persistent", .string "ΟΔΟΣ"] = some ⟨.persistent, "ΟΔΟΣ"⟩ := by
    decide +kernel
  have isSecond : AcceptWord.ofCall? AcceptWord.commandName
      [.string "persistent", .string " Zorblax’s\n"] = some ⟨.persistent, "Zorblax’s"⟩ := by
    decide +kernel
  have areKept : checker.keepAll? {} ["ΟΔΟΣ", "Zorblax’s"] =
      some ({ checker with user := extended }, written) := by
    rfl
  have areCommands : ∀ word ∈ ["ΟΔΟΣ", "Zorblax’s"], ∃ name arguments,
      AcceptWord.ofCall? name arguments = some ⟨.persistent, word⟩ := by
    simp only [List.forall_mem_cons]
    exact ⟨⟨_, _, isFirst⟩, ⟨_, _, isSecond⟩, by simp⟩
  obtain ⟨_, reloaded, isReloaded, sameIff⟩ :=
    kept_words_reload {} written "/user.txt" checker _ _ isLoaded areCommands areKept
  exact ⟨⟨isLoaded, isFirst, isSecond, areKept⟩, reloaded, isReloaded, sameIff.2 (by decide)⟩

/-- A word with a line feed inside comes back as two others. -/
theorem kept_words_split_at_line_feed :
    let checker : SpellChecker := { dictionary := {}, user := { path := some "/user.txt" } }
    let extended := checker.user.extend "zorb\nqlax"
    let written : FileTree := { entries := [(["user.txt"], .text "zorb\nqlax\n")] }
    (UserDictionary.load {} "/user.txt" = .ok checker.user ∧
      AcceptWord.ofCall? AcceptWord.commandName [.string "persistent", .string "zorb\nqlax"] =
        some ⟨.persistent, "zorb\nqlax"⟩ ∧
      checker.keepAll? {} ["zorb\nqlax"] = some ({ checker with user := extended }, written)) ∧
    ∃ reloaded, UserDictionary.load written "/user.txt" = .ok reloaded ∧
      reloaded.words.toList = ["qlax", "zorb"] ∧
      ¬ ∀ key, key ∈ reloaded.words ↔ key ∈ extended.words := by
  intro checker extended written
  refine ⟨⟨by rfl, by decide +kernel, by rfl⟩, _, by rfl, by rfl, ?_⟩
  intro same
  have inMemory : "zorb" ∈ extended.words := (same "zorb").1 (by rfl)
  rw [UserDictionary.mem_words_extend] at inMemory
  revert inMemory
  decide +kernel

end SpellChecker

end Gamebook
