import Gamebook.Script.Delimiter
import Gamebook.Text.Fragment

/-!
# Prose and its interpolations

Prose may show the value of an expression, as in `${name}`, or one of several texts chosen by an
expression, as in `@{happy elated|miserable}`.  Here prose is cut at its interpolations, and an
interpolation into the expression that selects and the texts it selects from.
-/

namespace Gamebook

/-- How an interpolation is filled in. -/
inductive Opener where
  | value
  | choice
deriving DecidableEq, Repr

namespace Opener

/-- The opener a text starts with and its number of characters. -/
def ofChars? : List Char → Option (Opener × Nat)
  | '$' :: '{' :: _ => some (value, 2)
  | '$' :: '!' :: '{' :: _ => some (value, 3)
  | '$' :: '!' :: '!' :: '{' :: _ => some (value, 4)
  | '@' :: '{' :: _ => some (choice, 2)
  | _ => none

/-- The first opener of a text: the characters before it, its kind and its own length. -/
def find? : List Char → Option (Nat × Opener × Nat)
  | [] => none
  | char :: rest =>
      match ofChars? (char :: rest) with
      | some (opener, size) => some (0, opener, size)
      | none => (find? rest).map fun found => (found.1 + 1, found.2)

end Opener

/-- The index of the brace that closes the one before the text, with `depth` more open. -/
def closingBrace? (depth : Nat) : List Char → Option Nat
  | [] => none
  | char :: rest =>
      if char = '{' then
        (closingBrace? (depth + 1) rest).map (· + 1)
      else if char = '}' then
        match depth with
        | 0 => some 0
        | depth + 1 => (closingBrace? depth rest).map (· + 1)
      else
        (closingBrace? depth rest).map (· + 1)

inductive Piece where
  | plain (text : Fragment)
  | interpolation (opener : Opener) (body : Fragment)
  /-- From an opener without its closing brace to the end. -/
  | unclosed (text : Fragment)
deriving DecidableEq, Repr

theorem Opener.length_pos_of_find? {text : List Char} {found : Nat × Opener × Nat}
    (isFound : Opener.find? text = some found) : 0 < text.length := by
  cases text with
  | nil => simp [Opener.find?] at isFound
  | cons char rest => simp

/-- Prose cut at its interpolations.  Nothing is cut behind an opener that is never closed. -/
def pieces (prose : Fragment) : List Piece :=
  match _found : Opener.find? prose.chars with
  | none => [.plain prose]
  | some (index, opener, size) =>
      let inner := prose.drop (index + size)
      match closingBrace? 0 inner.chars with
      | none => [.plain (prose.take index), .unclosed (prose.drop index)]
      | some close =>
          .plain (prose.take index) :: .interpolation opener (inner.take close) ::
            pieces (inner.drop (close + 1))
termination_by prose.chars.length
decreasing_by
  have := Opener.length_pos_of_find? _found
  simp only [Fragment.drop, List.length_drop]
  omega

/-- The expression that chooses among the texts of an interpolation, and those texts as one
fragment.  An expression with blanks is in parentheses. -/
def splitSelector (body : Fragment) : Fragment × Fragment :=
  let trimmed := body.trimStart
  let size :=
    if trimmed.chars.head? = some '(' then
      ((closingParen? trimmed.chars).map (· + 1)).getD trimmed.chars.length
    else
      (trimmed.chars.takeWhile (!isBlank ·)).length
  (trimmed.take size, trimmed.drop size)

def alternatives (texts : Fragment) : List Fragment :=
  texts.split (· == '|')

theorem closingBrace?_lt {depth index : Nat} {text : List Char}
    (closes : closingBrace? depth text = some index) : index < text.length := by
  induction text generalizing depth index with
  | nil => simp [closingBrace?] at closes
  | cons char rest ih =>
      have step {depth' : Nat} (mapped : (closingBrace? depth' rest).map (· + 1) = some index) :
          index < (char :: rest).length := by
        obtain ⟨earlier, earlierEq, rfl⟩ := Option.map_eq_some_iff.1 mapped
        simpa using ih earlierEq
      unfold closingBrace? at closes
      split at closes
      · exact step closes
      · split at closes
        · split at closes
          · simp only [Option.some.injEq] at closes
            simp [← closes]
          · exact step closes
        · exact step closes

theorem length_body_lt {prose body : Fragment} {opener : Opener}
    (isPiece : .interpolation opener body ∈ pieces prose) :
    body.chars.length < prose.chars.length := by
  fun_induction pieces prose with
  | case1 prose found => simp at isPiece
  | case2 prose index kind size found inner open_ => simp at isPiece
  | case3 prose index kind size found inner close closed ih =>
      have closeLt := closingBrace?_lt closed
      simp only [List.mem_cons, reduceCtorEq, Piece.interpolation.injEq, false_or] at isPiece
      rcases isPiece with ⟨_, rfl⟩ | later
      · simp only [inner, Fragment.take, Fragment.drop, List.length_take, List.length_drop]
          at closeLt ⊢
        omega
      · have := ih later
        simp only [inner, Fragment.drop, List.length_drop] at this
        omega

theorem length_splitSelector_le (body : Fragment) :
    (splitSelector body).1.chars.length ≤ body.chars.length ∧
      (splitSelector body).2.chars.length ≤ body.chars.length := by
  have trimmed := (List.dropWhile_suffix isBlank (l := body.chars)).length_le
  simp only [splitSelector, Fragment.take, Fragment.drop, Fragment.trimStart, Fragment.dropWhile,
    List.length_take, List.length_drop]
  omega

theorem length_alternative_le {body text : Fragment}
    (isText : text ∈ alternatives (splitSelector body).2) :
    text.chars.length ≤ body.chars.length :=
  Nat.le_trans (Fragment.length_le_of_mem_splitOn isText) (length_splitSelector_le body).2

end Gamebook
