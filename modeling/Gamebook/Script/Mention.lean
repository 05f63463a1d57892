import Gamebook.Script.Expression
import Gamebook.Script.Finding
import Gamebook.Script.Prose
import Gamebook.Text.Letter

/-!
# What expressions and prose mention

Expressions hold string literals, string literals hold interpolations, and interpolations hold
expressions and further texts.  So expressions and prose are read by one recursion, each step of
which goes to a shorter fragment.  `expressionFindings_eq` and `proseFindings_eq` give the two
defining equations.

Only prose proper is checked for spelling: the text inside a string literal is read for the
variables it shows, and not recorded itself.
-/

namespace Gamebook

/-- A run of prose is recorded when it has a letter. -/
def plainFindings (line : Nat) (text : Fragment) : List Finding :=
  if text.chars.any isLetter then [.mention .text line text] else []

mutual

def expressionFindings (line : Nat) (expression : Fragment) : List Finding :=
  let scan := ExpressionScan.ofFragment expression
  scan.reads.map (.mention .variableRead line) ++
    scan.strings.attach.flatMap (fun string => proseFindings line false string.1) ++
    scan.unterminated.toList.map (.wrong .unterminatedString)
termination_by expression.chars.length
decreasing_by exact ExpressionScan.length_string_lt string.2

/-- What prose on a line mentions; its plain parts are recorded if `recorded` says so. -/
def proseFindings (line : Nat) (recorded : Bool) (prose : Fragment) : List Finding :=
  (pieces prose).attach.flatMap fun
    | ⟨.plain text, _⟩ => if recorded then plainFindings line text else []
    | ⟨.unclosed text, _⟩ => [.wrong .unterminatedInterpolation text.span]
    | ⟨.interpolation .value body, _⟩ => expressionFindings line body
    | ⟨.interpolation .choice body, _⟩ =>
        expressionFindings line (splitSelector body).1 ++
          (alternatives (splitSelector body).2).attach.flatMap fun text =>
            proseFindings line recorded text.1
termination_by prose.chars.length
decreasing_by
  · exact length_body_lt (by assumption)
  · exact Nat.lt_of_le_of_lt (length_splitSelector_le body).1 (length_body_lt (by assumption))
  · exact Nat.lt_of_le_of_lt (length_alternative_le text.2) (length_body_lt (by assumption))

end

def pieceFindings (line : Nat) (recorded : Bool) : Piece → List Finding
  | .plain text => if recorded then plainFindings line text else []
  | .unclosed text => [.wrong .unterminatedInterpolation text.span]
  | .interpolation .value body => expressionFindings line body
  | .interpolation .choice body =>
      expressionFindings line (splitSelector body).1 ++
        (alternatives (splitSelector body).2).flatMap (proseFindings line recorded)

theorem expressionFindings_eq (line : Nat) (expression : Fragment) :
    expressionFindings line expression =
      (ExpressionScan.ofFragment expression).reads.map (.mention .variableRead line) ++
        (ExpressionScan.ofFragment expression).strings.flatMap (proseFindings line false) ++
        (ExpressionScan.ofFragment expression).unterminated.toList.map
          (.wrong .unterminatedString) := by
  rw [expressionFindings]
  simp

theorem proseFindings_eq (line : Nat) (recorded : Bool) (prose : Fragment) :
    proseFindings line recorded prose =
      (pieces prose).flatMap (pieceFindings line recorded) := by
  have attached : (pieces prose).flatMap (pieceFindings line recorded) =
      (pieces prose).attach.flatMap fun piece => pieceFindings line recorded piece.1 := by
    simp
  rw [proseFindings, attached]
  congr 1
  funext ⟨piece, isPiece⟩
  match piece with
  | .plain text => rfl
  | .unclosed text => rfl
  | .interpolation .value body => rfl
  | .interpolation .choice body => simp [pieceFindings]

end Gamebook
