import Gamebook.Text.LetterRanges
import Gamebook.Text.NumeralRanges
import Gamebook.Text.CapitalRuns
import Gamebook.Text.LowerRuns
import Gamebook.Text.UpperRuns
import Gamebook.Text.CasedRanges

/-!
# Letters and letter case

Character classes and case mappings as Unicode defines them.  Prose may be in any script, so
spelling asks these and not the classes of core, which know ASCII only.  ASCII characters are
answered without a look at the tables.
-/

namespace Gamebook

/-- Whether the character counts as a letter. -/
def isLetter (char : Char) : Bool :=
  if char.toNat < 0x80 then char.isAlpha else letterRanges.contains char.toNat

/-- Whether the character is a digit or another numeral. -/
def isNumeral (char : Char) : Bool :=
  if char.toNat < 0x80 then char.isDigit else numeralRanges.contains char.toNat

def isLetterOrNumeral (char : Char) : Bool :=
  isLetter char || isNumeral char

/-- Whether the character is an upper-case letter. -/
def isCapital (char : Char) : Bool :=
  if char.toNat < 0x80 then char.isUpper else capitalRuns.any (·.contains char.toNat)

def mapByRuns (runs : List CaseRun) (code : Nat) : Nat :=
  match runs.find? (·.contains code) with
  | some run => run.target code
  | none => code

/-- The lower case of a character.  Only a capital I with a dot takes two characters. -/
def lowerChars (char : Char) : List Char :=
  if char.toNat < 0x80 then
    [char.toLower]
  else if char.toNat = 0x130 then
    ['i', Char.ofNat 0x307]
  else
    [Char.ofNat (mapByRuns lowerRuns char.toNat)]

def upperChars (char : Char) : List Char :=
  if char.toNat < 0x80 then
    [char.toUpper]
  else
    match upperExpansions.lookup char.toNat with
    | some codes => codes.map Char.ofNat
    | none => [Char.ofNat (mapByRuns upperRuns char.toNat)]

/-- The next character that is not case-ignorable is a cased letter. -/
def reachesCased (text : List Char) : Bool :=
  match text.dropWhile (fun char => caseIgnorableRanges.contains char.toNat) with
  | [] => false
  | char :: _ => casedRanges.contains char.toNat

/-- Lower-cases a text whose part before it, read backwards, is `before`.  A capital sigma that
ends a word becomes the final sigma. -/
def lowerTextFrom (before : List Char) : List Char → List Char
  | [] => []
  | char :: rest =>
      let lowered :=
        if char = 'Σ' then
          if reachesCased before && !reachesCased rest then ['ς'] else ['σ']
        else
          lowerChars char
      lowered ++ lowerTextFrom (char :: before) rest

def lowerText (text : String) : String :=
  String.ofList (lowerTextFrom [] text.toList)

end Gamebook
