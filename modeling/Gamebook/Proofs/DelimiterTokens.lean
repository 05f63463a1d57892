import Gamebook.Proofs.DelimiterSearch
import Gamebook.Proofs.TokenSeparation
import Mathlib.Data.List.TakeWhile

/-!
# Delimiters are tokens

The search for a delimiter goes character by character, the reading of expressions
token by token.  Both have to agree on where string literals end, or a condition is
cut in the middle of one.  A token is passed by the search as a whole, whatever it
is, so the search stops at the token at which a walk over the tokens stops.  The one
exception is a quote without its partner, behind which the search finds nothing.
-/

namespace Gamebook

/-- Whether a search has to look at the character. -/
def isDelimiting (char : Char) : Bool :=
  ['"', '#', '(', ')'].contains char

theorem isDelimiting_of_isNameChar {char : Char} (inName : isNameChar char = true) :
    isDelimiting char = false := by
  by_contra delimiting
  simp only [isDelimiting, List.contains_cons, List.contains_nil, Bool.or_false, Bool.or_eq_true,
    beq_iff_eq, Bool.not_eq_false] at delimiting
  rcases delimiting with rfl | rfl | rfl | rfl <;> revert inName <;> decide

theorem isDelimiting_of_isDigit {char : Char} (isDigit : char.isDigit = true) :
    isDelimiting char = false := by
  apply isDelimiting_of_isNameChar
  simp [isNameChar, Char.isAlphanum, isDigit]

/-! ## The shapes of tokens -/

namespace Token

/-- How a token can look to a search, with what follows it. -/
inductive Shape : TokenKind → List Char → List Char → Prop
  | plain {kind : TokenKind} {lexeme rest : List Char}
      (isPlain : ∀ char ∈ lexeme, isDelimiting char = false)
      (notDelimiter : kind ∉ [.hash, .leftParen, .rightParen]) : Shape kind lexeme rest
  | hash (rest : List Char) : Shape .hash ['#'] rest
  | opening (rest : List Char) : Shape .leftParen ['('] rest
  | closing (rest : List Char) : Shape .rightParen [')'] rest
  | literal {quoted : List Char} (isQuoted : Quoted quoted) (rest : List Char) :
      Shape .string ('"' :: (quoted ++ ['"'])) rest
  | unfinished {quoted rest : List Char} (isQuoted : Quoted quoted)
      (atEnd : '\n' ∈ rest ∨ rest = [] ∨ rest = ['\\']) : Shape .error ('"' :: quoted) rest

/-- A literal is read up to its closing quote, or up to a backslash that takes no
character with it. -/
theorem splitQuoted_spec (text : List Char) :
    Quoted (splitQuoted text).1 ∧
      ('\n' ∈ (splitQuoted text).2 ∨ (splitQuoted text).2 = [] ∨ (splitQuoted text).2 = ['\\'] ∨
        ∃ rest, (splitQuoted text).2 = '"' :: rest) := by
  fun_induction splitQuoted text with
  | case1 => exact ⟨.nil, by simp⟩
  | case2 rest => exact ⟨.nil, by simp⟩
  | case3 rest => exact ⟨.nil, by simp⟩
  | case4 char rest notFeed ih => exact ⟨.escape char ih.1, ih.2⟩
  | case5 rest _ notEscape =>
      have isNil : rest = [] := by
        cases rest with
        | nil => rfl
        | cons char rest => exact (notEscape char rest rfl rfl).elim
      exact ⟨.nil, by simp [isNil]⟩
  | case6 char rest notQuote _ notBackslash ih =>
      exact ⟨.plain notQuote notBackslash ih.1, ih.2⟩

theorem symbolKind_spec {first : Char} (notQuote : first ≠ '"') (rest : List Char) :
    Shape (symbolKind first) [first] rest := by
  by_cases isHash : first = '#'
  · subst isHash
    exact .hash rest
  · by_cases isOpening : first = '('
    · subst isOpening
      exact .opening rest
    · by_cases isClosing : first = ')'
      · subst isClosing
        exact .closing rest
      · refine .plain ?_ ?_
        · simp [isDelimiting, *]
        · unfold symbolKind
          split <;> simp_all

theorem scanSymbol_shape {first : Char} (rest : List Char) (notQuote : first ≠ '"') :
    Shape (scanSymbol first rest).1 (first :: (scanSymbol first rest).2.1)
      (scanSymbol first rest).2.2 := by
  cases rest with
  | nil => exact symbolKind_spec notQuote []
  | cons second rest =>
      rw [scanSymbol]
      split
      · rename_i kind isPair
        unfold pairKind? at isPair
        split at isPair <;> cases isPair <;> exact .plain (by simp; decide) (by simp)
      · exact symbolKind_spec notQuote _

theorem isDelimiting_of_mem_splitFraction {text : List Char} {char : Char}
    (inFraction : char ∈ (splitFraction text).1) : isDelimiting char = false := by
  unfold splitFraction at inFraction
  split at inFraction
  · split at inFraction
    · simp at inFraction
    · rcases List.mem_cons.1 inFraction with rfl | isDigit
      · decide
      · exact isDelimiting_of_isDigit (List.mem_takeWhile_imp isDigit)
  · simp at inFraction

theorem scanToken_shape (first : Char) (rest : List Char) :
    Shape (scanToken first rest).1 (first :: (scanToken first rest).2.1)
      (scanToken first rest).2.2 := by
  rw [scanToken]
  split
  · rename_i isDigit
    refine .plain ?_ (by simp)
    intro char isChar
    rcases List.mem_cons.1 isChar with rfl | isLater
    · exact isDelimiting_of_isDigit isDigit
    · rcases List.mem_append.1 isLater with inWhole | inFraction
      · exact isDelimiting_of_isDigit (List.mem_takeWhile_imp inWhole)
      · exact isDelimiting_of_mem_splitFraction inFraction
  · split
    · rename_i isStart
      refine .plain ?_ (by simp)
      intro char isChar
      apply isDelimiting_of_isNameChar
      rcases List.mem_cons.1 isChar with rfl | isLater
      · exact isNameChar_of_isNameStart isStart
      · exact List.mem_takeWhile_imp isLater
    · split
      · rename_i isQuote
        subst isQuote
        obtain ⟨isQuoted, atEnd⟩ := splitQuoted_spec rest
        split
        · rename_i quoted after splitEq
          rw [splitEq] at isQuoted
          exact .literal isQuoted after
        · rename_i quoted after notClosed splitEq
          rw [splitEq] at isQuoted atEnd
          refine .unfinished isQuoted ?_
          rcases atEnd with hasFeed | isNil | isBackslash | ⟨_, isClosed⟩
          · exact .inl hasFeed
          · exact .inr (.inl isNil)
          · exact .inr (.inr isBackslash)
          · exact (notClosed _ isClosed).elim
      · exact scanSymbol_shape rest (by assumption)

/-! ## Walking over tokens -/

/-- Whether the token is a quote without its partner. -/
def isUnfinished (token : Token) : Bool :=
  token.kind == .error && token.lexeme.chars.head? == some '"'

/-- The depth behind a token; it does not fall below zero. -/
def depthBehind (depth : Nat) : TokenKind → Nat
  | .leftParen => depth + 1
  | .rightParen => depth - 1
  | _ => depth

/-- The tokens, each with the number of parentheses that are open before it. -/
def withDepth (depth : Nat) : List Token → List (Token × Nat)
  | [] => []
  | token :: rest => (token, depth) :: withDepth (depthBehind depth token.kind) rest

/-- The tokens before the first quote without its partner, each with its depth. -/
def finished (depth : Nat) (tokens : List Token) : List (Token × Nat) :=
  withDepth depth (tokens.takeWhile (!·.isUnfinished))

/-- The test of a search for a delimiter, asked of a token. -/
def stopsAt (stops : Nat → Char → Bool) (depth : Nat) : TokenKind → Bool
  | .hash => stops depth '#'
  | .leftParen => stops depth '('
  | .rightParen => stops depth ')'
  | _ => false

section Search

variable {stops : Nat → Char → Bool} {kind : TokenKind} {lexeme rest : List Char}

theorem plain_passes (passes : ∀ depth char, char ∉ ['#', '(', ')'] → stops depth char = false)
    (isPlain : ∀ char ∈ lexeme, isDelimiting char = false) (depth : Nat) :
    findDelimiter stops ⟨.outside, depth⟩ lexeme = none ∧
      Reader.behind ⟨.outside, depth⟩ lexeme = ⟨.outside, depth⟩ := by
  induction lexeme with
  | nil => exact ⟨rfl, rfl⟩
  | cons char lexeme ih =>
      obtain ⟨charPlain, lexemePlain⟩ := List.forall_mem_cons.1 isPlain
      simp only [isDelimiting, List.contains_cons, List.contains_nil, Bool.or_false,
        Bool.or_eq_false_iff, beq_eq_false_iff_ne] at charPlain
      have passed : stops depth char = false := passes depth char (by simp [charPlain])
      have next : Reader.next ⟨.outside, depth⟩ char = ⟨.outside, depth⟩ := by
        simp [Reader.next, Quoting.next, Reader.depthBehind, charPlain]
      rw [findDelimiter, Reader.behind_cons, next, (ih lexemePlain).1, (ih lexemePlain).2]
      simp [passed]

theorem findDelimiter_single (depth : Nat) (char : Char) :
    findDelimiter stops ⟨.outside, depth⟩ [char] =
      if stops depth char then some 0 else none := by
  cases stopsEq : stops depth char <;> simp [findDelimiter, stopsEq]

/-- A token is passed as a whole, or the search stops at it. -/
theorem Shape.passes (shape : Shape kind lexeme rest)
    (finished : ¬ (kind = .error ∧ lexeme.head? = some '"'))
    (passes : ∀ depth char, char ∉ ['#', '(', ')'] → stops depth char = false) (depth : Nat) :
    findDelimiter stops ⟨.outside, depth⟩ lexeme =
        (if stopsAt stops depth kind then some 0 else none) ∧
      Reader.behind ⟨.outside, depth⟩ lexeme = ⟨.outside, depthBehind depth kind⟩ := by
  cases shape with
  | plain isPlain notDelimiter =>
      obtain ⟨nothing, behind⟩ := plain_passes passes isPlain depth
      rw [nothing, behind]
      cases kind <;> simp [stopsAt, depthBehind] at notDelimiter ⊢
  | hash rest => exact ⟨findDelimiter_single depth _, rfl⟩
  | opening rest => exact ⟨findDelimiter_single depth _, rfl⟩
  | closing rest => exact ⟨findDelimiter_single depth _, rfl⟩
  | literal isQuoted rest => exact literal_passes isQuoted stops (passes depth '"' (by simp))
  | unfinished isQuoted atEnd => exact absurd ⟨rfl, rfl⟩ finished

/-- Behind a quote without its partner a search finds nothing. -/
theorem Shape.finds_nothing (shape : Shape .error ('"' :: lexeme) rest)
    (noFeed : '\n' ∉ rest)
    (passes : ∀ depth char, char ∉ ['#', '(', ')'] → stops depth char = false) (depth : Nat) :
    findDelimiter stops ⟨.outside, depth⟩ ('"' :: lexeme ++ rest) = none := by
  cases shape with
  | plain isPlain => exact absurd (isPlain '"' List.mem_cons_self) (by decide)
  | unfinished isQuoted atEnd =>
      obtain ⟨nothing, behind⟩ := isQuoted.passes stops depth
      have opened : Reader.next ⟨.outside, depth⟩ '"' = ⟨.inside, depth⟩ := by
        simp [Reader.next, Quoting.next, Reader.depthBehind]
      rw [List.cons_append, findDelimiter, opened, findDelimiter_append, nothing, behind,
        passes depth '"' (by simp)]
      rcases atEnd with hasFeed | rfl | rfl
      · exact absurd hasFeed noFeed
      · simp [findDelimiter]
      · simp [findDelimiter]

/-- A search through a text stops where a walk over its tokens stops. -/
theorem findDelimiter_scanFrom (stops : Nat → Char → Bool)
    (passes : ∀ depth char, char ∉ ['#', '(', ')'] → stops depth char = false)
    (start : Nat) {text : List Char} (noFeed : '\n' ∉ text) (depth : Nat) :
    (findDelimiter stops ⟨.outside, depth⟩ text).map
        (fun index => start + byteSize (text.take index)) =
      ((finished depth (scanFrom start text)).find? fun placed =>
        stopsAt stops placed.2 placed.1.kind).map (·.1.lexeme.start) := by
  fun_induction scanFrom start text generalizing depth with
  | case1 start => rfl
  | case2 start char rest blank ih =>
      have restNoFeed : '\n' ∉ rest := mt (List.mem_cons_of_mem char) noFeed
      have isPlain : ∀ other ∈ [char], isDelimiting other = false := by
        rw [List.forall_mem_singleton]
        rcases blank with rfl | rfl <;> decide
      obtain ⟨nothing, behind⟩ := plain_passes passes isPlain depth
      rw [← ih restNoFeed depth, ← List.singleton_append, findDelimiter_append, nothing, behind,
        Option.none_or, Option.map_map]
      congr 1
      funext index
      simp [Nat.add_assoc]
  | case3 start char rest notBlank scanned ih =>
      have textEq : char :: rest = (char :: scanned.2.1) ++ scanned.2.2 := by
        simp [scanned, scanToken_append]
      rw [textEq] at noFeed ⊢
      have restNoFeed : '\n' ∉ scanned.2.2 := mt (List.mem_append_right _) noFeed
      have shape := scanToken_shape char rest
      rw [finished, List.takeWhile_cons]
      cases isUnfinished : isUnfinished ⟨scanned.1, ⟨start, char :: scanned.2.1⟩⟩ with
      | true =>
          simp only [Token.isUnfinished, Bool.and_eq_true, beq_iff_eq] at isUnfinished
          obtain ⟨isError, isQuote⟩ := isUnfinished
          obtain rfl : char = '"' := by simpa using isQuote
          rw [show (scanToken '"' rest).1 = .error from isError] at shape
          rw [shape.finds_nothing restNoFeed passes depth]
          rfl
      | false =>
          have notUnfinished : ¬ (scanned.1 = .error ∧ (char :: scanned.2.1).head? = some '"') := by
            simpa [Token.isUnfinished] using isUnfinished
          obtain ⟨found, behind⟩ := shape.passes notUnfinished passes depth
          rw [findDelimiter_append, found, behind]
          simp only [Bool.not_false, if_true, withDepth, List.find?_cons]
          cases stopsEq : stopsAt stops depth scanned.1 with
          | true => simp
          | false =>
              rw [if_neg (by simp), Option.none_or, Option.map_map]
              refine Eq.trans ?_ (ih restNoFeed _)
              congr 1
              funext index
              simp only [Function.comp_apply]
              rw [Nat.add_comm index, List.take_length_add_append, byteSize_append,
                Nat.add_assoc]

end Search

/-- The mark of an option is the first number sign among the tokens that stands under no
parenthesis, and the parenthesis that closes the first one of a text is the first that
leaves none open.  In both cases only the tokens count that come before a quote without
its partner. -/
theorem delimiters_agree_with_tokens (fragment : Fragment) (noFeed : '\n' ∉ fragment.chars) :
    (optionMark? fragment.chars).map (fun mark => (fragment.drop mark).start) =
        ((finished 0 (scan fragment)).find? fun placed =>
          placed.1.kind == .hash && placed.2 == 0).map (·.1.lexeme.start) ∧
      (fragment.chars.head? = some '(' →
        (closingParen? fragment.chars).map (fun paren => (fragment.drop paren).start) =
          ((finished 0 (scan fragment)).find? fun placed =>
            placed.1.kind == .rightParen && depthBehind placed.2 placed.1.kind == 0).map
              (·.1.lexeme.start)) := by
  constructor
  · have isMark (placed : Token × Nat) :
        stopsAt isOptionMark placed.2 placed.1.kind =
          (placed.1.kind == .hash && placed.2 == 0) := by
      cases placed.1.kind <;> simp [stopsAt, isOptionMark]
    have agree := findDelimiter_scanFrom isOptionMark (by simp +contextual [isOptionMark])
      fragment.start noFeed 0
    simp only [isMark] at agree
    rw [optionMark?_eq]
    exact agree
  · intro opens
    have isParen (placed : Token × Nat) :
        stopsAt isLastParen placed.2 placed.1.kind =
          (placed.1.kind == .rightParen && depthBehind placed.2 placed.1.kind == 0) := by
      cases placed.1.kind <;> simp [stopsAt, isLastParen, depthBehind]
    have agree := findDelimiter_scanFrom isLastParen (by simp +contextual [isLastParen])
      fragment.start noFeed 0
    simp only [isParen] at agree
    rw [closingParen?_eq opens]
    exact agree

/-- A literal with both delimiters, an escaped quote and a letter of two bytes. -/
theorem delimiters_agree_with_tokens_behind_literal :
    let fragment : Fragment := ⟨0, "(\"é)#\\\"\" = b) #Go".toList⟩
    '\n' ∉ fragment.chars ∧ fragment.chars.head? = some '(' ∧
      ((finished 0 (scan fragment)).find? fun placed =>
        placed.1.kind == .hash && placed.2 == 0).map (·.1.lexeme.start) = some 15 ∧
      ((finished 0 (scan fragment)).find? fun placed =>
        placed.1.kind == .rightParen && depthBehind placed.2 placed.1.kind == 0).map
          (·.1.lexeme.start) = some 13 := by
  intro fragment
  have noFeed : '\n' ∉ fragment.chars := by decide +kernel
  have opens : fragment.chars.head? = some '(' := by decide +kernel
  obtain ⟨mark, paren⟩ := delimiters_agree_with_tokens fragment noFeed
  refine ⟨noFeed, opens, ?_, ?_⟩
  · rw [← mark]
    decide +kernel
  · rw [← paren opens]
    decide +kernel

end Token

end Gamebook
