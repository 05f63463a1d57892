/-!
# Delimiters outside string literals

Two scanners look for a delimiter in the arguments of a command: the parenthesis that closes the
first one, and the mark of an option outside all parentheses.  Neither looks into string literals.
Both give the number of characters before the delimiter.
-/

namespace Gamebook

/-- Where a scan stands with respect to string literals. -/
inductive Quoting where
  | outside
  | inside
  | escaped
deriving DecidableEq, Repr

/-- The state behind a character of a string literal, its quotes included. -/
def Quoting.next : Quoting → Char → Quoting
  | outside, char => if char = '"' then inside else outside
  | inside, char => if char = '\\' then escaped else if char = '"' then outside else inside
  | escaped, _ => inside

/-- The index of the parenthesis that brings the depth back to zero; none when one closes at depth
zero. -/
def closingParenFrom (quoting : Quoting) (depth : Nat) : List Char → Option Nat
  | [] => none
  | char :: rest =>
      let next := quoting.next char
      if quoting ≠ .outside then
        (closingParenFrom next depth rest).map (· + 1)
      else if char = '(' then
        (closingParenFrom next (depth + 1) rest).map (· + 1)
      else if char = ')' then
        match depth with
        | 0 => none
        | 1 => some 0
        | depth + 2 => (closingParenFrom next (depth + 1) rest).map (· + 1)
      else
        (closingParenFrom next depth rest).map (· + 1)

/-- The index of the parenthesis that closes the first one of the text. -/
def closingParen? (text : List Char) : Option Nat :=
  closingParenFrom .outside 0 text

/-- The index of the first number sign at depth zero; the depth does not fall below zero. -/
def optionMarkFrom (quoting : Quoting) (depth : Nat) : List Char → Option Nat
  | [] => none
  | char :: rest =>
      let next := quoting.next char
      if quoting ≠ .outside then
        (optionMarkFrom next depth rest).map (· + 1)
      else if char = '(' then
        (optionMarkFrom next (depth + 1) rest).map (· + 1)
      else if char = ')' then
        (optionMarkFrom next (depth - 1) rest).map (· + 1)
      else if char = '#' ∧ depth = 0 then
        some 0
      else
        (optionMarkFrom next depth rest).map (· + 1)

/-- The index of the number sign that starts the text of an option behind its condition. -/
def optionMark? (text : List Char) : Option Nat :=
  optionMarkFrom .outside 0 text

end Gamebook
