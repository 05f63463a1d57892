import Gamebook.Editor.Place

/-!
# Changes of a text

An editor changes a text by replacing ranges of it.  Its lines end at every mandatory break of
Unicode, where a carriage return and a line feed count as one.  Any position means some place of
the text: a line too far down means the end of the text, a column too far right the end of the
line, and a column inside a character its start.
-/

namespace Gamebook

def isLineBreak (char : Char) : Bool :=
  char == '\n' || char == '\r' || char == '\x0b' || char == '\x0c' || char == '\u0085' ||
    char == '\u2028' || char == '\u2029'

def pushChar (char : Char) : List (List Char) → List (List Char)
  | [] => [[char]]
  | line :: rest => (char :: line) :: rest

/-- The lines of a text with the breaks that end them. -/
def brokenLines : List Char → List (List Char)
  | [] => [[]]
  | '\r' :: '\n' :: rest => ['\r', '\n'] :: brokenLines rest
  | char :: rest =>
      if isLineBreak char then [char] :: brokenLines rest else pushChar char (brokenLines rest)

/-- The number of characters that fit into a number of UTF-16 units. -/
def charsWithin : Nat → List Char → Nat
  | _, [] => 0
  | units, char :: rest =>
      if unitSize char ≤ units then charsWithin (units - unitSize char) rest + 1 else 0

/-- A line without the carriage return or line feed, or both, that end it. -/
def withoutBreak (line : List Char) : List Char :=
  match line.reverse with
  | '\n' :: '\r' :: rest => rest.reverse
  | '\n' :: rest => rest.reverse
  | '\r' :: rest => rest.reverse
  | _ => line

def charIndex (text : List Char) (position : Position) : Nat :=
  let lines := brokenLines text
  match lines[position.line]? with
  | none => text.length
  | some line =>
      (lines.take position.line).flatten.length +
        min (charsWithin position.column line) (withoutBreak line).length

/-- A replacement of a range, or of the whole text. -/
structure TextChange where
  range : Option Range
  text : String
deriving DecidableEq, Repr

namespace TextChange

/-- The text after a change.  A range that ends before it starts is empty. -/
def apply (text : List Char) (change : TextChange) : List Char :=
  match change.range with
  | none => change.text.toList
  | some range =>
      let start := charIndex text range.start
      let stop := max start (charIndex text range.stop)
      text.take start ++ change.text.toList ++ text.drop stop

end TextChange

theorem flatten_brokenLines (text : List Char) : (brokenLines text).flatten = text := by
  have flatten_pushChar (char : Char) (lines : List (List Char)) :
      (pushChar char lines).flatten = char :: lines.flatten := by
    cases lines <;> rfl
  fun_induction brokenLines text with
  | case1 => rfl
  | case2 rest ih => simp [ih]
  | case3 char rest _ _ ih => simp [ih]
  | case4 char rest _ _ ih => rw [flatten_pushChar, ih]

theorem length_withoutBreak_le (line : List Char) : (withoutBreak line).length ≤ line.length := by
  have reversed : line.reverse.length = line.length := List.length_reverse
  unfold withoutBreak
  split
  · rename_i rest shape
    simp only [shape, List.length_cons] at reversed
    simp only [List.length_reverse]
    omega
  · rename_i rest _ shape
    simp only [shape, List.length_cons] at reversed
    simp only [List.length_reverse]
    omega
  · rename_i rest shape
    simp only [shape, List.length_cons] at reversed
    simp only [List.length_reverse]
    omega
  · exact Nat.le_refl _

theorem charIndex_le_length (text : List Char) (position : Position) :
    charIndex text position ≤ text.length := by
  unfold charIndex
  simp only
  split
  · exact Nat.le_refl _
  · rename_i line found
    have lineShorter := length_withoutBreak_le line
    obtain ⟨inBounds, rfl⟩ := List.getElem?_eq_some_iff.1 found
    have total := congrArg List.length (flatten_brokenLines text)
    have parts := List.take_append_drop (position.line + 1) (brokenLines text)
    rw [List.take_succ_eq_append_getElem inBounds] at parts
    rw [← parts] at total
    simp only [List.flatten_append, List.length_append, List.flatten_cons, List.flatten_nil,
      List.append_nil] at total
    omega

end Gamebook
