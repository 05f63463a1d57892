import Std.Data.HashMap
import Gamebook.Files.Tree
import Gamebook.Spelling.Distance
import Gamebook.Spelling.EnglishWords
import Gamebook.Spelling.Word

/-!
# Dictionaries

A dictionary is a list of words by falling frequency: the place of a word in the list is its rank.
Words are kept in lower case with straight apostrophes.  Replacing a word by another spelling may
leave a place of the list behind that no longer belongs to a word.
-/

namespace Gamebook

/-- The form in which words are compared: lower case, with straight apostrophes. -/
def normalize (word : String) : String :=
  String.ofList (word.toList.flatMap fun char => lowerChars (if char = '’' then '\'' else char))

inductive DictionaryLanguage where
  | american
  | british
deriving DecidableEq, Repr

namespace DictionaryLanguage

def name : DictionaryLanguage → String
  | american => "en_US"
  | british => "en_GB"

def find? (name : String) : Option DictionaryLanguage :=
  [american, british].find? (·.name == name)

end DictionaryLanguage

inductive DictionaryFailure where
  | file
  | empty
deriving DecidableEq, Repr

/-- The most suggestions given for a word. -/
def suggestionLimit : Nat := 8

/-- The greatest edit distance of a suggestion. -/
def distanceLimit : Nat := 2

/-- The shortest word that can be the stem of another. -/
def stemLength : Nat := 2

/-- Further stems that a word with the given ending may have, apart from the bare one. -/
def respellings (ending : String) (stem : List Char) : List (List Char) :=
  match ending with
  | "ies" | "ied" => [stem ++ ['y']]
  | "ing" | "ed" | "er" | "est" =>
      (stem ++ ['e']) ::
        match stem.reverse with
        | last :: previous :: _ => if last = previous then [stem.dropLast] else []
        | _ => []
  | "ly" => [stem ++ ['l', 'e']]
  | _ => []

def inflections : List String :=
  ["'s", "s", "es", "ies", "ed", "d", "ied", "ing", "ly", "er", "est"]

/-- The words of which a word may be an inflected form. -/
def stems (word : List Char) : List (List Char) :=
  inflections.flatMap fun ending =>
    if ending.toList.isSuffixOf word then
      let stem := word.take (word.length - ending.length)
      if stem.length < stemLength then [] else stem :: respellings ending stem
    else
      []

def capitals (text : List Char) : List Char :=
  text.flatMap upperChars

/-- A suggestion with the capitals of the word it replaces. -/
def matchCase (word suggestion : List Char) : List Char :=
  if !word.head?.any isCapital then
    suggestion
  else if 1 < word.length && (word.filter isLetter).all isCapital then
    capitals suggestion
  else
    match suggestion with
    | [] => []
    | first :: rest => upperChars first ++ rest

/-- A list of words by rank. -/
structure Dictionary where
  ranks : Std.HashMap String Nat := {}
  /-- The word of each rank; some places belong to no word any more. -/
  words : Array String := #[]

namespace Dictionary

def size (dictionary : Dictionary) : Nat :=
  dictionary.words.size

def isEmpty (dictionary : Dictionary) : Bool :=
  dictionary.words.isEmpty

/-- The dictionary with a new word at the lowest rank; none when the word is empty or known. -/
def insert? (dictionary : Dictionary) (word : String) : Option Dictionary :=
  let key := normalize word
  if key.isEmpty || dictionary.ranks.contains key then
    none
  else
    some ⟨dictionary.ranks.insert key dictionary.words.size, dictionary.words.push key⟩

def insert (dictionary : Dictionary) (word : String) : Dictionary :=
  (dictionary.insert? word).getD dictionary

/-- The dictionary with one word in the place of another.  If the new word is known, the old one
only goes; if the old one is unknown, the new one only comes. -/
def replace (dictionary : Dictionary) (old new : String) : Dictionary :=
  let oldKey := normalize old
  let newKey := normalize new
  if dictionary.ranks.contains newKey then
    { dictionary with ranks := dictionary.ranks.erase oldKey }
  else
    match dictionary.ranks[oldKey]? with
    | some rank =>
        ⟨(dictionary.ranks.erase oldKey).insert newKey rank,
          dictionary.words.setIfInBounds rank newKey⟩
    | none => dictionary.insert newKey

/-- Whether the word itself is known. -/
def contains (dictionary : Dictionary) (word : String) : Bool :=
  dictionary.ranks.contains (normalize word)

/-- Whether the word or one of its stems is known. -/
def containsInflected (dictionary : Dictionary) (word : String) : Bool :=
  let key := normalize word
  dictionary.ranks.contains key ||
    (stems key.toList).any fun stem => dictionary.ranks.contains (String.ofList stem)

/-- A word at a distance and its rank. -/
structure Candidate where
  distance : Nat
  rank : Nat
  word : String

/-- Whether a candidate comes before another: closer, or as close and more frequent. -/
def Candidate.before (first second : Candidate) : Bool :=
  first.distance < second.distance ||
    (first.distance == second.distance && first.rank ≤ second.rank)

/-- The place of the list as a candidate, unless it belongs to no word or is too far away. -/
def candidate? (dictionary : Dictionary) (key : List Char) (word : String) (rank : Nat) :
    Option Candidate :=
  if dictionary.ranks[word]? ≠ some rank then
    none
  else if distanceLimit < word.length - key.length ∨ distanceLimit < key.length - word.length then
    none
  else
    let distance := editDistance key word.toList
    if 0 < distance ∧ distance ≤ distanceLimit then some ⟨distance, rank, word⟩ else none

/-- At most `limit` known words close to a word, in the order of `Candidate.before`. -/
def suggest (dictionary : Dictionary) (word : String) (limit : Nat) : List String :=
  let key := (normalize word).toList
  let candidates := dictionary.words.toList.zipIdx.filterMap fun (known, rank) =>
    dictionary.candidate? key known rank
  ((candidates.mergeSort Candidate.before).take limit).map fun candidate =>
    String.ofList (matchCase word.toList candidate.word.toList)

/-- The lines of a text, without the line feed and the carriage return before it. -/
def textLines (text : String) : List (List Char) :=
  let parts := (Fragment.splitOn (· == '\n') 0 text.toList).map (·.chars)
  let terminated := parts.dropLast.map fun line =>
    if line.getLast? = some '\r' then line.dropLast else line
  terminated ++ (parts.getLast?.toList.filter (!·.isEmpty))

/-- The word on a line of a word list, if there is one.  Remarks start with a number sign, a word
count may stand on the first line, and flags follow a slash. -/
def wordOfLine? (isFirst : Bool) (line : List Char) : Option String :=
  let line := trimChars line
  if line.isEmpty || line.head? == some '#' then none
  else if isFirst && line.all Char.isDigit then none
  else some (String.ofList (line.takeWhile (· != '/')))

/-- The dictionary of a word list, one word a line, the most frequent first. -/
def ofWordList (text : String) : Dictionary :=
  ((textLines text).zipIdx.filterMap fun (line, index) => wordOfLine? (index == 0) line).foldl
    insert {}

def american : Dictionary :=
  ((blankSeparated americanWords.toList).map String.ofList).foldl insert {}

def british : Dictionary :=
  britishVariants.foldl (fun dictionary variant => dictionary.replace variant.1 variant.2) american

def builtin : DictionaryLanguage → Dictionary
  | .american => american
  | .british => british

def load (files : FileTree) (path : String) : Except DictionaryFailure Dictionary :=
  match files.read ⟨path⟩ with
  | .error _ => .error .file
  | .ok text =>
      let dictionary := ofWordList text
      if dictionary.isEmpty then .error .empty else .ok dictionary

end Dictionary

end Gamebook
