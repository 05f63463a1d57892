import Gamebook.Editor.Diagnostic
import Gamebook.Spelling.Checker

/-!
# Quick fixes for spelling

The first diagnostic on spelling can be fixed by replacing the word with a suggestion or by
accepting it, for the session or for good.  Accepting a word is a command of the server.
-/

namespace Gamebook

inductive Acceptance where
  | session
  | persistent
deriving DecidableEq, Repr

namespace Acceptance

def name : Acceptance → String
  | session => "session"
  | persistent => "persistent"

def find? (name : String) : Option Acceptance :=
  [session, persistent].find? (·.name == name)

end Acceptance

/-- The command that accepts a word. -/
structure AcceptWord where
  acceptance : Acceptance
  word : String
deriving DecidableEq, Repr

namespace AcceptWord

def commandName : String := "addWordToDictionary"

def arguments (command : AcceptWord) : List Json :=
  [.string command.acceptance.name, .string command.word]

/-- The command of a name and its arguments.  Blanks around the word do not count, and further
arguments are passed over. -/
def ofCall? (name : String) (arguments : List Json) : Option AcceptWord := do
  guard (name = commandName)
  match arguments with
  | acceptance :: word :: _ =>
      let acceptance ← acceptance.string?.bind Acceptance.find?
      let word := trimChars (← word.string?).toList
      if word.isEmpty then none else some ⟨acceptance, String.ofList word⟩
  | _ => none

end AcceptWord

/-- A way to deal with a word that is not known. -/
inductive QuickFix where
  /-- Replaces the word; the first suggestion is preferred. -/
  | correct (replacement : String) (preferred : Bool)
  | accept (command : AcceptWord)
deriving DecidableEq, Repr

namespace QuickFix

def title : QuickFix → String
  | correct replacement _ => s!"Correct spelling: {replacement}"
  | accept ⟨.session, word⟩ => s!"Ignore '{word}' this session"
  | accept ⟨.persistent, word⟩ => s!"Add '{word}' to the User Dictionary"

/-- Every way to deal with a word, given the suggestions for it. -/
def forWord (word : String) (suggestions : List String) : List QuickFix :=
  (suggestions.zipIdx.map fun (suggestion, index) => correct suggestion (index == 0)) ++
    [accept ⟨.session, word⟩, accept ⟨.persistent, word⟩]

end QuickFix

structure QuickFixes where
  marker : Diagnostic
  fixes : List QuickFix

/-- The text that a range of a source covers; none for nothing. -/
def Source.textIn? (source : Source) (range : Range) : Option String := do
  let start ← source.offsetOf? range.start
  let stop ← source.offsetOf? range.stop
  let text := source.slice ⟨start, stop⟩
  if text.isEmpty then none else some text

/-- The quick fixes for the first diagnostic on spelling. -/
def SpellChecker.quickFixes? (checker : SpellChecker) (scene : Scene)
    (diagnostics : List Diagnostic) : Option QuickFixes := do
  let marker ← diagnostics.find? (·.isOf .badSpelling)
  let word ← scene.source.textIn? marker.range
  some ⟨marker, QuickFix.forWord word (checker.suggest word)⟩

end Gamebook
