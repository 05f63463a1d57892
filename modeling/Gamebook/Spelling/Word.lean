import Gamebook.Text.Fragment
import Gamebook.Text.Letter

/-!
# Words of prose

A word is a maximal run of letters, numerals and apostrophes, without the apostrophes around it.
Whether it starts a sentence decides whether a capital makes it a proper name.
-/

namespace Gamebook

/-- Whether the character is a straight or curly apostrophe. -/
def isApostrophe (char : Char) : Bool :=
  char == '\'' || char == '’'

def isWordChar (char : Char) : Bool :=
  isLetterOrNumeral char || isApostrophe char

def endsSentence (char : Char) : Bool :=
  char == '.' || char == '!' || char == '?'

/-- Whether the character may stand between the end of a sentence and the next word. -/
def isNeutral (char : Char) : Bool :=
  isBlank char || "\"“”‘()-—".toList.contains char

/-- A word of prose. -/
structure Word where
  fragment : Fragment
  startsSentence : Bool
deriving DecidableEq, Repr

namespace Word

/-- The run without the apostrophes around it. -/
def trimApostrophes (run : Fragment) : Fragment :=
  let trimmed := run.dropWhile isApostrophe
  ⟨trimmed.start, trimEndChars isApostrophe trimmed.chars⟩

/-- The word of a run, unless the run is all apostrophes. -/
def ofRun? (startsSentence : Bool) (run : Fragment) : Option Word :=
  let word := trimApostrophes run
  if word.isEmpty then none else some ⟨word, startsSentence⟩

/-- What has been read of some prose. -/
structure Scan where
  run : Fragment
  startsSentence : Bool
  words : List Word

namespace Scan

/-- The run ends where the scan has got to. -/
def endRun (state : Scan) : Scan :=
  if state.run.isEmpty then
    state
  else
    ⟨⟨state.run.stop, []⟩, false, state.words ++ (ofRun? state.startsSentence state.run).toList⟩

def read (state : Scan) (char : Char) : Scan :=
  if isWordChar char then
    { state with run := ⟨state.run.start, state.run.chars ++ [char]⟩ }
  else
    let ended := state.endRun
    ⟨⟨ended.run.stop + char.utf8Size, []⟩,
      endsSentence char || (isNeutral char && ended.startsSentence), ended.words⟩

end Scan

/-- The words of prose that starts a sentence if `startsSentence` says so. -/
def scan (startsSentence : Bool) (prose : Fragment) : List Word :=
  (prose.chars.foldl Scan.read ⟨⟨prose.start, []⟩, startsSentence, []⟩).endRun.words

def text (word : Word) : String :=
  word.fragment.text

/-- Whether the word is to be spelled right.  Single characters, words with numerals or inner
capitals, and names inside a sentence are left alone. -/
def isChecked (word : Word) : Bool :=
  match word.fragment.chars with
  | [] | [_] => false
  | first :: rest =>
      !(isNumeral first || rest.any isNumeral) && !rest.any isCapital &&
        (!isCapital first || word.startsSentence)

end Word

end Gamebook
