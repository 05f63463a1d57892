import Gamebook.Rules.Report
import Gamebook.Script.Scene
import Gamebook.Spelling.UserDictionary

/-!
# Spell checking

A word is accepted when the main dictionary has it or one of its stems, or when the user has
accepted it, for the session or for good.
-/

namespace Gamebook

/-- The dictionaries words are checked against. -/
structure SpellChecker where
  dictionary : Dictionary
  /-- Words accepted until the program ends. -/
  session : Std.TreeSet String := {}
  user : UserDictionary := {}

/-- Whether a run of prose at an offset starts a sentence, by what stands before it on its line. -/
def beginsSentence (source : Source) (offset : Nat) : Bool :=
  let before :=
    match source.lines[source.lineOf offset]? with
    | some line => (takeBytes? (offset - line.start) line.chars).getD []
    | none => []
  let before := trimEndChars (fun char => isBlank char || "\"“‘#".toList.contains char) before
  before.isEmpty || before.getLast?.any endsSentence

namespace SpellChecker

def isKnown (checker : SpellChecker) (word : String) : Bool :=
  let key := normalize word
  checker.dictionary.containsInflected key || checker.session.contains key ||
    checker.user.contains key

def unknownWords (checker : SpellChecker) (source : Source) (occurrence : Occurrence) :
    List Word :=
  (Word.scan (beginsSentence source occurrence.span.start)
    ⟨occurrence.span.start, occurrence.name.toList⟩).filter
      fun word => word.isChecked && !checker.isKnown word.text

def check (checker : SpellChecker) (scene : Scene) : List Report :=
  (scene.occurrencesOf .text).flatMap fun occurrence =>
    (checker.unknownWords scene.source occurrence).map fun word =>
      .ofViolation (.unknownWord word.text) word.fragment.span

def suggest (checker : SpellChecker) (word : String) : List String :=
  checker.dictionary.suggest word suggestionLimit

/-- Accepts a word for the session, and tells whether it is new. -/
def ignoreForSession (checker : SpellChecker) (word : String) : SpellChecker × Bool :=
  let key := normalize word
  ({ checker with session := checker.session.insert key }, !checker.session.contains key)

/-- Accepts a word for good. -/
def addToUser (checker : SpellChecker) (files : FileTree) (word : String) :
    UserDictionary.Addition :=
  checker.user.add files (normalize word)

end SpellChecker

end Gamebook
