import Gamebook.Text.Fragment

/-!
# Tokens of expressions

Expressions are cut into tokens by longest match.  Spaces and tabs separate tokens.  A character
that starts no token is an error token of its own; a quote without its partner is one error token
together with the text it would have quoted.  `scanToken_append` says that no character is lost.
-/

namespace Gamebook

inductive TokenKind where
  | number
  | string
  | identifier
  | fairAdd
  | fairSub
  | plus
  | minus
  | star
  | slash
  | amp
  | eq
  | notEq
  | lt
  | gt
  | le
  | ge
  | hash
  | comma
  | leftParen
  | rightParen
  | leftBrace
  | rightBrace
  | leftBracket
  | rightBracket
  | error
deriving DecidableEq, Repr

/-- A token and the text it was read from. -/
structure Token where
  kind : TokenKind
  lexeme : Fragment
deriving DecidableEq, Repr

def isNameStart (char : Char) : Bool :=
  char.isAlpha || char == '_'

def isNameChar (char : Char) : Bool :=
  char.isAlphanum || char == '_'

/-- Whether the text is the name of a variable, label or achievement. -/
def isName : List Char → Bool
  | [] => false
  | char :: rest => isNameStart char && rest.all isNameChar

/-- Words that look like names and are operators, values or functions. -/
def reservedWords : List String :=
  ["and", "or", "not", "modulo", "true", "false", "round", "timestamp", "log", "length", "auto"]

def isReserved (word : String) : Bool :=
  reservedWords.contains word.toLower

namespace Token

/-- The longest beginning that can stand between quotes, and what follows it.  A backslash takes
any character but a line feed with it. -/
def splitQuoted : List Char → List Char × List Char
  | [] => ([], [])
  | '"' :: rest => ([], '"' :: rest)
  | '\\' :: char :: rest =>
      if char = '\n' then ([], '\\' :: char :: rest)
      else ('\\' :: char :: (splitQuoted rest).1, (splitQuoted rest).2)
  | char :: rest =>
      if char = '\\' then ([], char :: rest)
      else (char :: (splitQuoted rest).1, (splitQuoted rest).2)

/-- The digits of a fraction with their point, and what follows them; no digits, no fraction. -/
def splitFraction : List Char → List Char × List Char
  | '.' :: rest =>
      if (rest.takeWhile Char.isDigit).isEmpty then ([], '.' :: rest)
      else ('.' :: rest.takeWhile Char.isDigit, rest.dropWhile Char.isDigit)
  | text => ([], text)

def symbolKind : Char → TokenKind
  | '+' => .plus
  | '-' => .minus
  | '*' => .star
  | '/' => .slash
  | '&' => .amp
  | '=' => .eq
  | '<' => .lt
  | '>' => .gt
  | '#' => .hash
  | ',' => .comma
  | '(' => .leftParen
  | ')' => .rightParen
  | '{' => .leftBrace
  | '}' => .rightBrace
  | '[' => .leftBracket
  | ']' => .rightBracket
  | _ => .error

/-- The token kind of two characters that form one operator. -/
def pairKind? : Char → Char → Option TokenKind
  | '%', '+' => some .fairAdd
  | '%', '-' => some .fairSub
  | '!', '=' => some .notEq
  | '<', '=' => some .le
  | '>', '=' => some .ge
  | _, _ => none

def scanSymbol (first : Char) : List Char → TokenKind × List Char × List Char
  | [] => (symbolKind first, [], [])
  | second :: rest =>
      match pairKind? first second with
      | some kind => (kind, [second], rest)
      | none => (symbolKind first, [], second :: rest)

/-- The longest token that starts with `first`: its kind, its further characters and what follows
it. -/
def scanToken (first : Char) (rest : List Char) : TokenKind × List Char × List Char :=
  if first.isDigit then
    let fraction := splitFraction (rest.dropWhile Char.isDigit)
    (.number, rest.takeWhile Char.isDigit ++ fraction.1, fraction.2)
  else if isNameStart first then
    (.identifier, rest.takeWhile isNameChar, rest.dropWhile isNameChar)
  else if first = '"' then
    match splitQuoted rest with
    | (quoted, '"' :: after) => (.string, quoted ++ ['"'], after)
    | (quoted, after) => (.error, quoted, after)
  else
    scanSymbol first rest

theorem splitQuoted_append (text : List Char) :
    (splitQuoted text).1 ++ (splitQuoted text).2 = text := by
  fun_induction splitQuoted text <;> simp_all

theorem splitFraction_append (text : List Char) :
    (splitFraction text).1 ++ (splitFraction text).2 = text := by
  fun_cases splitFraction text <;> simp

theorem scanSymbol_append (first : Char) (rest : List Char) :
    (scanSymbol first rest).2.1 ++ (scanSymbol first rest).2.2 = rest := by
  fun_cases scanSymbol first rest <;> simp

theorem scanToken_append (first : Char) (rest : List Char) :
    (scanToken first rest).2.1 ++ (scanToken first rest).2.2 = rest := by
  unfold scanToken
  split
  · simp [splitFraction_append]
  · split
    · simp
    · split
      · have appended := splitQuoted_append rest
        split
        · rename_i quoted after splitEq
          simp [splitEq] at appended
          simp [appended]
        · rename_i quoted after _ splitEq
          simpa [splitEq] using appended
      · exact scanSymbol_append first rest

theorem length_scanToken_le (first : Char) (rest : List Char) :
    (scanToken first rest).2.2.length ≤ rest.length := by
  have lengths := congrArg List.length (scanToken_append first rest)
  simp only [List.length_append] at lengths
  omega

def scanFrom (start : Nat) : List Char → List Token
  | [] => []
  | char :: rest =>
      if char = ' ' ∨ char = '\t' then
        scanFrom (start + char.utf8Size) rest
      else
        let scanned := scanToken char rest
        ⟨scanned.1, ⟨start, char :: scanned.2.1⟩⟩ ::
          scanFrom (start + byteSize (char :: scanned.2.1)) scanned.2.2
termination_by text => text.length
decreasing_by
  · simp
  · have := length_scanToken_le char rest
    simp only [List.length_cons]
    omega

def scan (fragment : Fragment) : List Token :=
  scanFrom fragment.start fragment.chars

theorem length_lexeme_of_mem_scanFrom {start : Nat} {text : List Char} {token : Token}
    (isToken : token ∈ scanFrom start text) :
    0 < token.lexeme.chars.length ∧ token.lexeme.chars.length ≤ text.length := by
  fun_induction scanFrom start text with
  | case1 start => simp at isToken
  | case2 start char rest blank ih =>
      have := ih isToken
      simp only [List.length_cons]
      omega
  | case3 start char rest notBlank scanned ih =>
      have appended := congrArg List.length (scanToken_append char rest)
      simp only [List.length_append] at appended
      rcases List.mem_cons.1 isToken with rfl | later
      · simp only [scanned, List.length_cons]
        omega
      · have := ih later
        simp only [scanned, List.length_cons] at this ⊢
        omega

end Token

end Gamebook
