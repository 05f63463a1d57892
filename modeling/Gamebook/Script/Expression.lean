import Gamebook.Script.Token

/-!
# What an expression mentions

An expression is not evaluated.  It is scanned for the variables it reads and for its string
literals, whose contents may read further variables.  A literal without its closing quote ends the
scan.
-/

namespace Gamebook

/-- The parts of an expression that matter outside it. -/
structure ExpressionScan where
  reads : List Fragment
  /-- Contents of string literals, without the quotes. -/
  strings : List Fragment
  /-- From a quote without its partner to the end of the expression. -/
  unterminated : Option Span
deriving DecidableEq, Repr

namespace ExpressionScan

def unquoted (lexeme : Fragment) : Fragment :=
  ⟨(lexeme.drop 1).start, (lexeme.drop 1).chars.dropLast⟩

/-- What a list of tokens mentions, in an expression that ends at `stop`. -/
def ofTokens (stop : Nat) : List Token → ExpressionScan
  | [] => ⟨[], [], none⟩
  | token :: tokens =>
      let rest := ofTokens stop tokens
      match token.kind with
      | .identifier =>
          if isReserved token.lexeme.text then rest
          else { rest with reads := token.lexeme :: rest.reads }
      | .string => { rest with strings := unquoted token.lexeme :: rest.strings }
      | .error =>
          if token.lexeme.chars.head? = some '"' then
            ⟨[], [], some ⟨token.lexeme.start, stop⟩⟩
          else
            rest
      | _ => rest

def ofFragment (fragment : Fragment) : ExpressionScan :=
  ofTokens fragment.stop (Token.scan fragment)

theorem length_unquoted_lt {lexeme : Fragment} (notEmpty : 0 < lexeme.chars.length) :
    (unquoted lexeme).chars.length < lexeme.chars.length := by
  simp only [unquoted, Fragment.drop, List.length_dropLast, List.length_drop]
  omega

theorem exists_token_of_mem_strings {stop : Nat} {tokens : List Token} {string : Fragment}
    (isString : string ∈ (ofTokens stop tokens).strings) :
    ∃ token ∈ tokens, string = unquoted token.lexeme := by
  induction tokens with
  | nil => simp [ofTokens] at isString
  | cons token rest ih =>
      have later (inRest : string ∈ (ofTokens stop rest).strings) :
          ∃ other ∈ token :: rest, string = unquoted other.lexeme :=
        let ⟨other, isToken, stringEq⟩ := ih inRest
        ⟨other, List.mem_cons_of_mem _ isToken, stringEq⟩
      rw [ofTokens] at isString
      split at isString
      · split at isString <;> exact later isString
      · rcases List.mem_cons.1 isString with rfl | inRest
        · exact ⟨token, List.mem_cons_self, rfl⟩
        · exact later inRest
      · split at isString
        · simp at isString
        · exact later isString
      · exact later isString

theorem length_string_lt {fragment string : Fragment}
    (isString : string ∈ (ofFragment fragment).strings) :
    string.chars.length < fragment.chars.length := by
  obtain ⟨token, isToken, rfl⟩ := exists_token_of_mem_strings isString
  obtain ⟨notEmpty, bounded⟩ := Token.length_lexeme_of_mem_scanFrom isToken
  exact Nat.lt_of_lt_of_le (length_unquoted_lt notEmpty) bounded

end ExpressionScan

end Gamebook
