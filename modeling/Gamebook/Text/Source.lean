import Gamebook.Text.Fragment

/-!
# Source texts and their lines

A source is a text cut into lines at line feeds.  A carriage return before a line feed belongs to
the line but not to its content.  Editors address a place by line and UTF-16 column; the two
conversions between such positions and byte offsets are defined here.
-/

namespace Gamebook

/-- A place in a text as editors count it: zero-based line and UTF-16 column. -/
structure Position where
  line : Nat
  column : Nat
deriving DecidableEq, Repr, Inhabited

/-- The lines of a text that starts at offset `start`, without their line feeds. -/
def linesFrom (start : Nat) (text : List Char) : List Fragment :=
  Fragment.splitOn (· == '\n') start text

structure Source where
  chars : List Char
  lines : List Fragment
  lines_eq : lines = linesFrom 0 chars

namespace Source

def ofChars (chars : List Char) : Source :=
  ⟨chars, linesFrom 0 chars, rfl⟩

def ofString (text : String) : Source :=
  ofChars text.toList

def text (source : Source) : String :=
  String.ofList source.chars

def whole (source : Source) : Fragment :=
  ⟨0, source.chars⟩

/-- The number of lines; a text always has at least one. -/
def lineCount (source : Source) : Nat :=
  source.lines.length

/-- A line without the carriage return that may end it. -/
def content (line : Fragment) : Fragment :=
  if line.chars.getLast? = some '\r' then ⟨line.start, line.chars.dropLast⟩ else line

def lineStart? (source : Source) (line : Nat) : Option Nat :=
  source.lines[line]?.map (·.start)

def line? (source : Source) (line : Nat) : Option Fragment :=
  source.lines[line]?.map content

/-- The number of the last line that starts at or before `offset`. -/
def lineOf (source : Source) (offset : Nat) : Nat :=
  (source.lines.takeWhile (·.start ≤ offset)).length - 1

/-- The position of a byte offset.  An offset inside a character means the start of that character
and an offset past the end means the end. -/
def positionOf (source : Source) (offset : Nat) : Position :=
  let line := source.lineOf offset
  match source.lines[line]? with
  | some fragment => ⟨line, unitsWithin (offset - fragment.start) fragment.chars⟩
  | none => ⟨line, 0⟩

/-- The byte offset of a position, or nothing when there is no such line.  A column past the end
of the line's content means its end. -/
def offsetOf? (source : Source) (position : Position) : Option Nat :=
  (source.line? position.line).map fun line =>
    line.start + byteSize (beforeColumn position.column line.chars)

/-- The text a span covers; empty when the span does not fit. -/
def slice (source : Source) (span : Span) : String :=
  span.text source.chars

@[simp]
theorem ofChars_chars (chars : List Char) : (ofChars chars).chars = chars := rfl

@[simp]
theorem text_ofString (text : String) : (ofString text).text = text := by
  simp [ofString, Source.text]

theorem ext_chars {first second : Source} (charsEq : first.chars = second.chars) :
    first = second := by
  cases first with
  | mk firstChars firstLines firstEq =>
      cases second with
      | mk secondChars secondLines secondEq =>
          simp only at charsEq
          subst charsEq firstEq secondEq
          rfl

instance : DecidableEq Source := fun first second =>
  if charsEq : first.chars = second.chars then
    isTrue (ext_chars charsEq)
  else
    isFalse fun equal => charsEq (congrArg Source.chars equal)

end Source

end Gamebook
