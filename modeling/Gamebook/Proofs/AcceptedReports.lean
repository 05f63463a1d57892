import Gamebook.Proofs.AcceptedWords
import Gamebook.Proofs.LetterCase
import Gamebook.Proofs.WordAdditions

/-!
# What accepting a word takes away

A word is accepted in the form in which words are compared, for the session or for good.
Either way the checker then knows the words of this form and otherwise those it knew, so
the reports on a scene are the ones it gave before without those on such words.  The user's
dictionary looks a word up in lower case as a whole, which changes nothing in that form.
To accept the word again changes nothing.
-/

namespace Gamebook

theorem insert_of_contains {words : Std.TreeSet String} {key : String}
    (isThere : words.contains key = true) : words.insert key = words := by
  obtain ⟨⟨⟨impl, wellFormed⟩⟩⟩ := words
  have inTree : Std.DTreeMap.Internal.Impl.contains key impl = true := isThere
  simp only [Std.TreeSet.insert, Std.TreeMap.insertIfNew, Std.DTreeMap.insertIfNew,
    Std.DTreeMap.Internal.Impl.insertIfNew, inTree, if_true]

/-- Whether a report is on a word that is compared like the given one. -/
def Report.isOnWord (word : String) (report : Report) : Bool :=
  match report.violation with
  | .unknownWord found => normalize found == normalize word
  | _ => false

@[simp]
theorem isOnWord_ofViolation {word found : String} {span : Span} :
    (Report.ofViolation (.unknownWord found) span).isOnWord word =
      (normalize found == normalize word) :=
  rfl

namespace SpellChecker

variable {checker later : SpellChecker} {word other : String}

/-- The later checker knows what the checker knows and the words that are compared like `word`. -/
def LearnsOnly (checker later : SpellChecker) (word : String) : Prop :=
  ∀ other, later.isKnown other = true ↔
    checker.isKnown other = true ∨ normalize other = normalize word

theorem isKnown_iff :
    checker.isKnown other = true ↔
      checker.dictionary.containsInflected (normalize other) = true ∨
        normalize other ∈ checker.session ∨ normalize other ∈ checker.user.words := by
  simp only [isKnown, UserDictionary.contains, lowerText_normalize, Bool.or_eq_true,
    Std.TreeSet.contains_iff_mem, or_assoc]

theorem learnsOnly_ignoreForSession :
    checker.LearnsOnly (checker.ignoreForSession word).1 word := by
  intro other
  have sessionIff : normalize other ∈ (checker.ignoreForSession word).1.session ↔
      normalize other ∈ checker.session ∨ normalize other = normalize word := by
    rw [← Std.TreeSet.contains_iff_mem, contains_ignoreForSession, Std.TreeSet.contains_iff_mem,
      or_comm, eq_comm]
  rw [isKnown_iff, isKnown_iff, sessionIff]
  simp only [ignoreForSession, or_assoc, or_comm]

theorem mem_words_addToUser {files : FileTree} {user : UserDictionary} {key : String}
    (isKept : (checker.addToUser files word).kept? checker.user = some user) :
    key ∈ user.words ↔ key ∈ checker.user.words ∨ key = normalize word := by
  rw [UserDictionary.mem_words_of_kept? isKept, lowerText_normalize, eq_comm]

theorem learnsOnly_addToUser {files : FileTree} {user : UserDictionary}
    (isKept : (checker.addToUser files word).kept? checker.user = some user) :
    checker.LearnsOnly { checker with user } word := by
  intro other
  rw [isKnown_iff, isKnown_iff, mem_words_addToUser isKept]
  simp only [or_assoc]

theorem LearnsOnly.check (learns : checker.LearnsOnly later word) (scene : Scene) :
    later.check scene = (checker.check scene).filter fun report => !report.isOnWord word := by
  rw [SpellChecker.check, SpellChecker.check, List.filter_flatMap]
  apply List.flatMap_congr
  intro occurrence _
  rw [List.filter_map, unknownWords, unknownWords, List.filter_filter]
  apply congrArg
  apply List.filter_congr
  intro found _
  rw [Bool.eq_iff_iff]
  simp only [Function.comp_apply, isOnWord_ofViolation, Bool.and_eq_true, Bool.not_eq_true',
    ← Bool.not_eq_true, learns found.text, beq_iff_eq]
  rw [not_or, ← and_assoc, and_comm]

/-- After a word is accepted the reports are those of before without the ones on the word, and
it cannot be accepted again. -/
theorem accepting_removes_own_reports (checker : SpellChecker) (word : String) :
    (let later := (checker.ignoreForSession word).1
     (∀ scene, later.check scene =
        (checker.check scene).filter fun report => !report.isOnWord word) ∧
      later.ignoreForSession word = (later, false)) ∧
    ∀ files user, (checker.addToUser files word).kept? checker.user = some user →
      let later := { checker with user }
      (∀ scene, later.check scene =
        (checker.check scene).filter fun report => !report.isOnWord word) ∧
      ∀ others, later.addToUser others word = .known := by
  refine ⟨⟨learnsOnly_ignoreForSession.check, ?_⟩, fun files user isKept =>
    ⟨(learnsOnly_addToUser isKept).check, fun others => ?_⟩⟩
  · have isThere : (checker.ignoreForSession word).1.session.contains (normalize word) = true :=
      contains_ignoreForSession.2 (.inl rfl)
    rw [ignoreForSession, isThere, insert_of_contains isThere]
    rfl
  · apply UserDictionary.add_of_mem
    rw [lowerText_normalize]
    exact (mem_words_addToUser isKept).2 (.inr rfl)

/-- A word in capitals, one of them a sigma at its end: it is kept with the sigma that stands
inside words, so the same word with the other sigma is still reported. -/
theorem accepting_removes_own_reports_sigma :
    let checker : SpellChecker := { dictionary := .insert {} "the" }
    let user := checker.user.extend "οδοσ"
    let scene := Scene.parse "the οδοσ οδος"
    let own : Report := .ofViolation (.unknownWord "οδοσ") ⟨4, 12⟩
    let other : Report := .ofViolation (.unknownWord "οδος") ⟨13, 21⟩
    ((checker.addToUser {} "ΟΔΟΣ").kept? checker.user = some user ∧
      own ∈ checker.check scene ∧ other ∈ checker.check scene) ∧
    own ∉ { checker with user }.check scene ∧ other ∈ { checker with user }.check scene ∧
    { checker with user }.addToUser {} "ΟΔΟΣ" = .known := by
  intro checker user scene own other
  let prose : Occurrence := ⟨.text, "the οδοσ οδος", ⟨0, 21⟩, 0⟩
  have isText : prose ∈ scene.occurrencesOf .text := by decide +kernel
  let ownWord : Word := ⟨⟨4, "οδοσ".toList⟩, false⟩
  let otherWord : Word := ⟨⟨13, "οδος".toList⟩, false⟩
  have areWords : ∀ word ∈ [ownWord, otherWord], word.isChecked = true ∧
      word ∈ Word.scan (beginsSentence scene.source prose.span.start)
        ⟨prose.span.start, prose.name.toList⟩ := by
    decide +kernel
  have areUnknown : ∀ word ∈ [ownWord, otherWord], checker.isKnown word.text = false := by
    simp only [List.forall_mem_cons]
    refine ⟨?_, ?_, by simp⟩ <;>
      exact isKnown_of_word (by decide) (by decide +kernel) (by decide +kernel)
  have areReports : ∀ word ∈ [ownWord, otherWord],
      .ofViolation (.unknownWord word.text) word.fragment.span ∈ checker.check scene := by
    intro word isWord
    obtain ⟨isChecked, isScanned⟩ := areWords word isWord
    exact mem_check_of_unknown isText isScanned isChecked (areUnknown word isWord)
  have isOwn : own ∈ checker.check scene := areReports ownWord (by simp)
  have isOther : other ∈ checker.check scene := areReports otherWord (by simp)
  have isKept : (checker.addToUser {} "ΟΔΟΣ").kept? checker.user = some user := by rfl
  obtain ⟨checkEq, again⟩ := (accepting_removes_own_reports checker "ΟΔΟΣ").2 {} user isKept
  refine ⟨⟨isKept, isOwn, isOther⟩, ?_, ?_, again {}⟩
  · rw [checkEq, List.mem_filter]
    rintro ⟨_, notOwn⟩
    revert notOwn
    decide +kernel
  · rw [checkEq, List.mem_filter]
    exact ⟨isOther, by decide +kernel⟩

end SpellChecker

end Gamebook
