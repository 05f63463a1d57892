import Gamebook.Script.Delimiter
import Mathlib.Data.List.Induction

/-!
# Searching for a delimiter

A search for a delimiter reads a text from the left and keeps in mind whether a
string literal is open and how many parentheses are.  Both scanners are this
search with different tests.  What a search has in mind is also said by grammar:
`Outside depth text` holds if the text consists of whole string literals and
other characters, and leaves `depth` parentheses open.  `outside_iff` joins the
two.
-/

namespace Gamebook

/-! ## The state of a search -/

/-- What a search has in mind. -/
structure Reader where
  quoting : Quoting
  /-- The number of open parentheses. -/
  depth : Nat
deriving DecidableEq

namespace Reader

/-- The depth behind a character that stands outside string literals. -/
def depthBehind (depth : Nat) (char : Char) : Nat :=
  if char = '(' then depth + 1 else if char = ')' then depth - 1 else depth

/-- The state behind a character. -/
def next (reader : Reader) (char : Char) : Reader :=
  ⟨reader.quoting.next char,
    if reader.quoting = .outside then depthBehind reader.depth char else reader.depth⟩

/-- The state behind a text. -/
def behind (reader : Reader) (text : List Char) : Reader :=
  text.foldl next reader

@[simp]
theorem behind_nil (reader : Reader) : reader.behind [] = reader := rfl

@[simp]
theorem behind_cons (reader : Reader) (char : Char) (rest : List Char) :
    reader.behind (char :: rest) = (reader.next char).behind rest := rfl

@[simp]
theorem behind_append (reader : Reader) (front rest : List Char) :
    reader.behind (front ++ rest) = (reader.behind front).behind rest :=
  List.foldl_append

end Reader

/-! ## The search -/

/-- The index of the first character outside string literals that passes a test. -/
def findDelimiter (stops : Nat → Char → Bool) (reader : Reader) : List Char → Option Nat
  | [] => none
  | char :: rest =>
      if reader.quoting = .outside ∧ stops reader.depth char = true then some 0
      else (findDelimiter stops (reader.next char) rest).map (· + 1)

/-- The mark of an option stands under no parenthesis. -/
def isOptionMark (depth : Nat) (char : Char) : Bool :=
  char == '#' && depth == 0

/-- A parenthesis that leaves none open. -/
def isLastParen (depth : Nat) (char : Char) : Bool :=
  char == ')' && depth - 1 == 0

theorem optionMarkFrom_eq (quoting : Quoting) (depth : Nat) (text : List Char) :
    optionMarkFrom quoting depth text = findDelimiter isOptionMark ⟨quoting, depth⟩ text := by
  induction text generalizing quoting depth with
  | nil => rfl
  | cons char rest ih =>
      rw [optionMarkFrom, findDelimiter, Reader.next]
      simp only [ih]
      by_cases isOutside : quoting = .outside
      · by_cases isOpening : char = '('
        · simp [isOutside, isOpening, isOptionMark, Reader.depthBehind]
        · by_cases isClosing : char = ')'
          · simp [isOutside, isClosing, isOptionMark, Reader.depthBehind]
          · simp [isOutside, isOpening, isClosing, isOptionMark, Reader.depthBehind]
      · simp [isOutside]

/-- Under a parenthesis, none can close at depth zero before the search ends. -/
theorem closingParenFrom_eq (quoting : Quoting) (depth : Nat) (text : List Char) :
    closingParenFrom quoting (depth + 1) text =
      findDelimiter isLastParen ⟨quoting, depth + 1⟩ text := by
  induction text generalizing quoting depth with
  | nil => rfl
  | cons char rest ih =>
      rw [closingParenFrom.eq_def, findDelimiter, Reader.next]
      simp only [ih]
      by_cases isOutside : quoting = .outside
      · by_cases isOpening : char = '('
        · simp [isOutside, isOpening, isLastParen, Reader.depthBehind]
        · by_cases isClosing : char = ')'
          · cases depth with
            | zero => simp [isOutside, isClosing, isLastParen]
            | succ depth => simp [isOutside, isClosing, isLastParen, Reader.depthBehind]
          · simp [isOutside, isOpening, isClosing, isLastParen, Reader.depthBehind]
      · simp [isOutside]

theorem optionMark?_eq (text : List Char) :
    optionMark? text = findDelimiter isOptionMark ⟨.outside, 0⟩ text :=
  optionMarkFrom_eq .outside 0 text

theorem closingParen?_eq {text : List Char} (opens : text.head? = some '(') :
    closingParen? text = findDelimiter isLastParen ⟨.outside, 0⟩ text := by
  obtain ⟨rest, rfl⟩ := List.head?_eq_some_iff.1 opens
  have inside := closingParenFrom_eq .outside 0 rest
  rw [closingParen?, closingParenFrom.eq_def, findDelimiter]
  simp [Reader.next, Reader.depthBehind, Quoting.next, isLastParen, inside]

section Search

variable {stops : Nat → Char → Bool} {reader : Reader}

/-- A search goes on behind a text in which it finds nothing. -/
theorem findDelimiter_append (front rest : List Char) :
    findDelimiter stops reader (front ++ rest) =
      (findDelimiter stops reader front).or
        ((findDelimiter stops (reader.behind front) rest).map (· + front.length)) := by
  induction front generalizing reader with
  | nil => simp [findDelimiter]
  | cons char front ih =>
      rw [List.cons_append, findDelimiter, findDelimiter, ih]
      split
      · rfl
      · rw [Option.map_or, Option.map_map, Reader.behind_cons]
        rfl

/-- The search stops behind a beginning of the text. -/
def StopsBehind (stops : Nat → Char → Bool) (reader : Reader) (front : List Char)
    (char : Char) : Prop :=
  (reader.behind front).quoting = .outside ∧ stops (reader.behind front).depth char = true

theorem findDelimiter_eq_some_iff {text : List Char} {index : Nat} :
    findDelimiter stops reader text = some index ↔
      ∃ front char rest, text = front ++ char :: rest ∧ front.length = index ∧
        StopsBehind stops reader front char ∧
          ∀ earlier other later, front = earlier ++ other :: later →
            ¬ StopsBehind stops reader earlier other := by
  induction text generalizing reader index with
  | nil => simp [findDelimiter]
  | cons char rest ih =>
      rw [findDelimiter]
      split
      · rename_i here
        constructor
        · intro found
          obtain rfl : 0 = index := by simpa using found
          exact ⟨[], char, rest, rfl, rfl, here, by simp⟩
        · rintro ⟨front, stop, behind, textEq, rfl, _, first⟩
          cases front with
          | nil => rfl
          | cons head front =>
              obtain ⟨rfl, rfl⟩ := List.cons.inj textEq
              exact absurd here (first [] char front rfl)
      · rename_i notHere
        rw [Option.map_eq_some_iff]
        constructor
        · rintro ⟨index, found, rfl⟩
          obtain ⟨front, stop, behind, rfl, rfl, stopped, first⟩ := ih.1 found
          refine ⟨char :: front, stop, behind, rfl, rfl, stopped, ?_⟩
          intro earlier other later frontEq
          cases earlier with
          | nil =>
              obtain ⟨rfl, rfl⟩ := List.cons.inj frontEq
              exact notHere
          | cons head earlier =>
              obtain ⟨rfl, rfl⟩ := List.cons.inj frontEq
              exact first earlier other later rfl
        · rintro ⟨front, stop, behind, textEq, rfl, stopped, first⟩
          cases front with
          | nil =>
              obtain ⟨rfl, rfl⟩ := List.cons.inj textEq
              exact absurd stopped notHere
          | cons head front =>
              obtain ⟨rfl, rfl⟩ := List.cons.inj textEq
              refine ⟨front.length, ih.2 ⟨front, stop, behind, rfl, rfl, stopped, ?_⟩, rfl⟩
              intro earlier other later frontEq
              exact first (char :: earlier) other later (by rw [frontEq]; rfl)

end Search

/-! ## Texts read outside string literals -/

/-- What may stand between the quotes of a string literal: a backslash takes the next
character with it. -/
inductive Quoted : List Char → Prop
  | nil : Quoted []
  | plain {char : Char} {rest : List Char} (notQuote : char ≠ '"') (notBackslash : char ≠ '\\')
      (quoted : Quoted rest) : Quoted (char :: rest)
  | escape (char : Char) {rest : List Char} (quoted : Quoted rest) :
      Quoted ('\\' :: char :: rest)

/-- The text leaves no string literal and `depth` parentheses open.  A parenthesis that
closes none counts for nothing. -/
inductive Outside : Nat → List Char → Prop
  | nil : Outside 0 []
  | opening {depth : Nat} {text : List Char} (outside : Outside depth text) :
      Outside (depth + 1) (text ++ ['('])
  | closing {depth : Nat} {text : List Char} (outside : Outside depth text) :
      Outside (depth - 1) (text ++ [')'])
  | literal {depth : Nat} {text quoted : List Char} (outside : Outside depth text)
      (isQuoted : Quoted quoted) : Outside depth (text ++ '"' :: (quoted ++ ['"']))
  | plain {depth : Nat} {text : List Char} {char : Char} (outside : Outside depth text)
      (notDelimiting : char ∉ ['(', ')', '"']) : Outside depth (text ++ [char])

namespace Quoted

variable {text : List Char}

theorem append {rest : List Char} (quoted : Quoted text) (restQuoted : Quoted rest) :
    Quoted (text ++ rest) := by
  induction quoted with
  | nil => exact restQuoted
  | plain notQuote notBackslash _ ih => exact .plain notQuote notBackslash ih
  | escape char _ ih => exact .escape char ih

/-- Inside a literal nothing is found and nothing counts. -/
theorem passes (quoted : Quoted text) (stops : Nat → Char → Bool) (depth : Nat) :
    findDelimiter stops ⟨.inside, depth⟩ text = none ∧
      Reader.behind ⟨.inside, depth⟩ text = ⟨.inside, depth⟩ := by
  induction quoted with
  | nil => exact ⟨rfl, rfl⟩
  | plain notQuote notBackslash _ ih =>
      simpa [findDelimiter, Reader.next, Quoting.next, notQuote, notBackslash] using ih
  | escape char _ ih => simpa [findDelimiter, Reader.next, Quoting.next] using ih

end Quoted

/-- A whole literal is passed over. -/
theorem literal_passes {quoted : List Char} (isQuoted : Quoted quoted)
    (stops : Nat → Char → Bool) {depth : Nat} (passesQuote : stops depth '"' = false) :
    findDelimiter stops ⟨.outside, depth⟩ ('"' :: (quoted ++ ['"'])) = none ∧
      Reader.behind ⟨.outside, depth⟩ ('"' :: (quoted ++ ['"'])) = ⟨.outside, depth⟩ := by
  obtain ⟨nothing, behind⟩ := isQuoted.passes stops depth
  have opened : Reader.next ⟨.outside, depth⟩ '"' = ⟨.inside, depth⟩ := by
    simp [Reader.next, Quoting.next, Reader.depthBehind]
  have closed : Reader.next ⟨.inside, depth⟩ '"' = ⟨.outside, depth⟩ := by
    simp [Reader.next, Quoting.next]
  constructor
  · rw [findDelimiter, opened, findDelimiter_append, nothing, behind]
    simp [passesQuote, findDelimiter]
  · rw [Reader.behind_cons, opened, Reader.behind_append, behind, Reader.behind_cons, closed,
      Reader.behind_nil]

theorem Outside.behind_eq {depth : Nat} {text : List Char} (outside : Outside depth text) :
    Reader.behind ⟨.outside, 0⟩ text = ⟨.outside, depth⟩ := by
  induction outside with
  | nil => rfl
  | opening _ ih => simp [ih, Reader.next, Quoting.next, Reader.depthBehind]
  | closing _ ih => simp [ih, Reader.next, Quoting.next, Reader.depthBehind]
  | literal _ isQuoted ih =>
      rw [Reader.behind_append, ih]
      exact (literal_passes isQuoted (fun _ _ => false) rfl).2
  | plain _ notDelimiting ih =>
      simp only [List.mem_cons, List.not_mem_nil, or_false, not_or] at notDelimiting
      simp [ih, Reader.next, Quoting.next, Reader.depthBehind, notDelimiting]

/-- The text leaves the search in its state: outside literals, inside one that is not
closed, or behind a backslash in one. -/
def Leaves (text : List Char) : Reader → Prop
  | ⟨.outside, depth⟩ => Outside depth text
  | ⟨.inside, depth⟩ => ∃ front quoted, text = front ++ '"' :: quoted ∧
      Outside depth front ∧ Quoted quoted
  | ⟨.escaped, depth⟩ => ∃ front quoted, text = front ++ '"' :: (quoted ++ ['\\']) ∧
      Outside depth front ∧ Quoted quoted

theorem leaves_next {text : List Char} {reader : Reader} (leaves : Leaves text reader)
    (char : Char) : Leaves (text ++ [char]) (reader.next char) := by
  obtain ⟨quoting, depth⟩ := reader
  cases quoting with
  | outside =>
      by_cases isQuote : char = '"'
      · subst isQuote
        exact ⟨text, [], rfl, leaves, .nil⟩
      · by_cases isOpening : char = '('
        · subst isOpening
          exact .opening leaves
        · by_cases isClosing : char = ')'
          · subst isClosing
            exact .closing leaves
          · have plain : Outside depth (text ++ [char]) := .plain leaves (by simp [*])
            simpa [Leaves, Reader.next, Quoting.next, Reader.depthBehind, isQuote, isOpening,
              isClosing] using plain
  | inside =>
      obtain ⟨front, quoted, rfl, outside, isQuoted⟩ := leaves
      by_cases isBackslash : char = '\\'
      · subst isBackslash
        exact ⟨front, quoted, by simp, outside, isQuoted⟩
      · by_cases isQuote : char = '"'
        · subst isQuote
          have closed := Outside.literal outside isQuoted
          simpa [Leaves, Reader.next, Quoting.next] using closed
        · have longer := isQuoted.append (.plain isQuote isBackslash .nil)
          simp only [Reader.next, Quoting.next, isBackslash, isQuote, if_false]
          exact ⟨front, quoted ++ [char], by simp, outside, longer⟩
  | escaped =>
      obtain ⟨front, quoted, rfl, outside, isQuoted⟩ := leaves
      exact ⟨front, quoted ++ ['\\', char], by simp, outside,
        isQuoted.append (.escape char .nil)⟩

theorem leaves_behind (text : List Char) : Leaves text (Reader.behind ⟨.outside, 0⟩ text) := by
  induction text using List.reverseRecOn with
  | nil => exact Outside.nil
  | append_singleton front char ih =>
      rw [Reader.behind_append]
      exact leaves_next ih char

/-- The grammar and the search agree on where a text leaves off. -/
theorem outside_iff {depth : Nat} {text : List Char} :
    Outside depth text ↔ Reader.behind ⟨.outside, 0⟩ text = ⟨.outside, depth⟩ := by
  constructor
  · exact Outside.behind_eq
  · intro behindEq
    have leaves := leaves_behind text
    rwa [behindEq] at leaves

end Gamebook
