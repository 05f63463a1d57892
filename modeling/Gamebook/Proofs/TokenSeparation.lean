import Gamebook.Proofs.FragmentCuts
import Mathlib.Data.List.Pairwise

/-!
# Tokens do not overlap

The tokens of a fragment stand one behind the other.  Names are read as far as
they go, so two of them are never neighbours, and a string literal has its
quotes around it.  Hence whatever an expression mentions, by a name or inside a
literal, is kept apart from everything else it mentions by at least one
character.
-/

namespace Gamebook

/-- Of two different items of an ordered list one comes before the other. -/
theorem before_or_behind {Item : Type} {Before : Item → Item → Prop} {items : List Item}
    {first second : Item} (ordered : items.Pairwise Before) (isFirst : first ∈ items)
    (isSecond : second ∈ items) (different : first ≠ second) :
    Before first second ∨ Before second first := by
  have symmetric : Std.Symm fun left right => Before left right ∨ Before right left :=
    ⟨fun _ _ => Or.symm⟩
  have apart : items.Pairwise fun left right => Before left right ∨ Before right left :=
    ordered.imp Or.inl
  exact apart.forall isFirst isSecond different

namespace Token

/-- The first token ends before the second begins; between two names stands a
further character. -/
def Before (first second : Token) : Prop :=
  first.lexeme.stop ≤ second.lexeme.start ∧
    (first.kind = .identifier → second.kind = .identifier →
      first.lexeme.stop < second.lexeme.start)

/-! ## Names and literals -/

theorem isNameChar_of_isNameStart {char : Char} (starts : isNameStart char = true) :
    isNameChar char = true := by
  simp only [isNameStart, isNameChar, Char.isAlphanum, Bool.or_eq_true] at *
  rcases starts with alpha | underscore
  · exact Or.inl (Or.inl alpha)
  · exact Or.inr underscore

theorem scanSymbol_kind (first : Char) (rest : List Char) :
    (scanSymbol first rest).1 ≠ .identifier ∧
      (scanSymbol first rest).1 ≠ .string := by
  have single : symbolKind first ≠ .identifier ∧ symbolKind first ≠ .string := by
    unfold symbolKind
    split <;> simp
  cases rest with
  | nil => exact single
  | cons second rest =>
      simp only [scanSymbol]
      split
      · rename_i kind pairEq
        simp only [pairKind?] at pairEq
        split at pairEq <;> cases pairEq <;> simp
      · exact single

/-- A name takes every character that can stand in it. -/
theorem scanToken_identifier {first : Char} {rest : List Char}
    (isIdentifier : (scanToken first rest).1 = .identifier) :
    isNameStart first = true ∧
      (scanToken first rest).2.2 = rest.dropWhile isNameChar := by
  unfold scanToken at isIdentifier ⊢
  split at isIdentifier
  · simp at isIdentifier
  · rename_i notDigit
    rw [if_neg notDigit]
    split at isIdentifier
    · rename_i starts
      exact ⟨starts, by rw [if_pos starts]⟩
    · split at isIdentifier
      · split at isIdentifier <;> simp at isIdentifier
      · exact absurd isIdentifier (scanSymbol_kind first rest).1

/-- A string literal begins and ends with a quote of its own. -/
theorem scanToken_string {first : Char} {rest : List Char}
    (isString : (scanToken first rest).1 = .string) :
    first = '"' ∧ ∃ quoted, (scanToken first rest).2.1 = quoted ++ ['"'] := by
  unfold scanToken at isString ⊢
  split at isString
  · simp at isString
  · rename_i notDigit
    rw [if_neg notDigit]
    split at isString
    · simp at isString
    · rename_i notName
      rw [if_neg notName]
      split at isString
      · rename_i isQuote
        rw [if_pos isQuote]
        refine ⟨isQuote, ?_⟩
        split at isString
        · rename_i quoted after splitEq
          exact ⟨quoted, by simp⟩
        · simp at isString
      · exact absurd isString (scanSymbol_kind first rest).2

/-! ## The order of tokens -/

variable {start : Nat} {text : List Char} {token : Token}

theorem behind_within (start : Nat) (char : Char) (rest : List Char) :
    (⟨start + byteSize (char :: (scanToken char rest).2.1),
      (scanToken char rest).2.2⟩ : Fragment).Within ⟨start, char :: rest⟩ := by
  refine ⟨char :: (scanToken char rest).2.1, [], ?_, rfl⟩
  simp [scanToken_append]

theorem lexeme_within (start : Nat) (char : Char) (rest : List Char) :
    (⟨start, char :: (scanToken char rest).2.1⟩ : Fragment).Within
      ⟨start, char :: rest⟩ := by
  refine ⟨[], (scanToken char rest).2.2, ?_, by simp⟩
  simp [scanToken_append]

theorem lexeme_within_of_mem_scanFrom (isToken : token ∈ scanFrom start text) :
    token.lexeme.Within ⟨start, text⟩ := by
  fun_induction scanFrom start text with
  | case1 start => simp at isToken
  | case2 start char rest blank ih =>
      exact (ih isToken).trans (Fragment.within_cons char rest start)
  | case3 start char rest notBlank scanned ih =>
      rcases List.mem_cons.1 isToken with rfl | later
      · exact lexeme_within start char rest
      · exact (ih later).trans (behind_within start char rest)

theorem lexeme_ne_nil_of_mem_scanFrom (isToken : token ∈ scanFrom start text) :
    token.lexeme.chars ≠ [] :=
  List.ne_nil_of_length_pos (length_lexeme_of_mem_scanFrom isToken).1

theorem exists_quoted_of_mem_scanFrom (isToken : token ∈ scanFrom start text)
    (isString : token.kind = .string) :
    ∃ quoted, token.lexeme.chars = '"' :: (quoted ++ ['"']) := by
  fun_induction scanFrom start text with
  | case1 start => simp at isToken
  | case2 start char rest blank ih => exact ih isToken
  | case3 start char rest notBlank scanned ih =>
      rcases List.mem_cons.1 isToken with rfl | later
      · obtain ⟨rfl, quoted, quotedEq⟩ := scanToken_string isString
        exact ⟨quoted, by simp [scanned, quotedEq]⟩
      · exact ih later

/-- A name that begins with the text begins with a character of a name. -/
theorem exists_head_of_identifier (isToken : token ∈ scanFrom start text)
    (isIdentifier : token.kind = .identifier) (atStart : token.lexeme.start = start) :
    ∃ char rest, text = char :: rest ∧ isNameChar char = true := by
  cases text with
  | nil => simp [scanFrom] at isToken
  | cons char rest =>
      refine ⟨char, rest, rfl, ?_⟩
      have positive := char.utf8Size_pos
      rw [scanFrom] at isToken
      split at isToken
      · have bounds := (lexeme_within_of_mem_scanFrom isToken).bounds
        simp only at bounds
        omega
      · rcases List.mem_cons.1 isToken with rfl | later
        · exact isNameChar_of_isNameStart (scanToken_identifier isIdentifier).1
        · have bounds := (lexeme_within_of_mem_scanFrom later).bounds
          simp only [byteSize_cons] at bounds
          omega

/-- The tokens of a text stand one behind the other. -/
theorem scanFrom_pairwise (start : Nat) (text : List Char) :
    (scanFrom start text).Pairwise Before := by
  fun_induction scanFrom start text with
  | case1 start => exact List.Pairwise.nil
  | case2 start char rest blank ih => exact ih
  | case3 start char rest notBlank scanned ih =>
      refine List.pairwise_cons.2 ⟨?_, ih⟩
      intro later isLater
      have bounds := (lexeme_within_of_mem_scanFrom isLater).bounds
      refine ⟨bounds.1, ?_⟩
      intro isIdentifier laterIdentifier
      apply Nat.lt_of_le_of_ne bounds.1
      -- otherwise the later name would begin with a character that the first
      -- one should have taken
      intro touches
      obtain ⟨next, others, restEq, nextIsName⟩ :=
        exists_head_of_identifier isLater laterIdentifier touches.symm
      have dropEq := (scanToken_identifier isIdentifier).2
      rw [show scanned.2.2 = _ from dropEq] at restEq
      have := head_of_dropWhile_eq_cons restEq
      simp [nextIsName] at this

end Token

namespace ExpressionScan

/-! ## What an expression mentions -/

theorem reads_sublist (stop : Nat) (tokens : List Token) :
    (ofTokens stop tokens).reads.Sublist
      ((tokens.filter (·.kind = .identifier)).map (·.lexeme)) := by
  induction tokens with
  | nil => simp [ofTokens]
  | cons token tokens ih =>
      rw [ofTokens]
      split
      · rename_i isIdentifier
        simp only [isIdentifier, List.filter_cons, decide_true, if_true, List.map_cons]
        split
        · exact ih.cons _
        · exact ih.cons_cons _
      · rename_i isString
        simpa [isString] using ih
      · rename_i isError
        split
        · simp
        · simpa [isError] using ih
      · rename_i notIdentifier _ _
        rw [List.filter_cons_of_neg (by simpa using notIdentifier)]
        exact ih

theorem strings_sublist (stop : Nat) (tokens : List Token) :
    (ofTokens stop tokens).strings.Sublist
      ((tokens.filter (·.kind = .string)).map (unquoted ·.lexeme)) := by
  induction tokens with
  | nil => simp [ofTokens]
  | cons token tokens ih =>
      rw [ofTokens]
      split
      · rename_i isIdentifier
        split <;> simpa [isIdentifier] using ih
      · rename_i isString
        simp only [isString, List.filter_cons, decide_true, if_true, List.map_cons]
        exact ih.cons_cons _
      · rename_i isError
        split
        · simp
        · simpa [isError] using ih
      · rename_i _ notString _
        rw [List.filter_cons_of_neg (by simpa using notString)]
        exact ih

theorem exists_token_of_unterminated {stop : Nat} {tokens : List Token} {span : Span}
    (isUnterminated : (ofTokens stop tokens).unterminated = some span) :
    ∃ token ∈ tokens, span = ⟨token.lexeme.start, stop⟩ := by
  induction tokens with
  | nil => simp [ofTokens] at isUnterminated
  | cons token tokens ih =>
      have later (inRest : (ofTokens stop tokens).unterminated = some span) :
          ∃ other ∈ token :: tokens, span = ⟨other.lexeme.start, stop⟩ := by
        obtain ⟨other, isToken, spanEq⟩ := ih inRest
        exact ⟨other, List.mem_cons_of_mem _ isToken, spanEq⟩
      rw [ofTokens] at isUnterminated
      split at isUnterminated
      · split at isUnterminated <;> exact later isUnterminated
      · exact later isUnterminated
      · split at isUnterminated
        · simp only [Option.some.injEq] at isUnterminated
          exact ⟨token, List.mem_cons_self, isUnterminated.symm⟩
        · exact later isUnterminated
      · exact later isUnterminated

variable {expression read string : Fragment}

theorem exists_token_of_mem_reads
    (isRead : read ∈ (ofFragment expression).reads) :
    ∃ token ∈ Token.scan expression,
      token.kind = .identifier ∧ read = token.lexeme := by
  have isName := (reads_sublist _ _).subset isRead
  obtain ⟨token, isToken, rfl⟩ := List.mem_map.1 isName
  obtain ⟨inScan, isIdentifier⟩ := List.mem_filter.1 isToken
  exact ⟨token, inScan, by simpa using isIdentifier, rfl⟩

theorem exists_stringToken_of_mem_strings
    (isString : string ∈ (ofFragment expression).strings) :
    ∃ token ∈ Token.scan expression,
      token.kind = .string ∧ string = unquoted token.lexeme := by
  have isLiteral := (strings_sublist _ _).subset isString
  obtain ⟨token, isToken, rfl⟩ := List.mem_map.1 isLiteral
  obtain ⟨inScan, isStringToken⟩ := List.mem_filter.1 isToken
  exact ⟨token, inScan, by simpa using isStringToken, rfl⟩

theorem read_within (isRead : read ∈ (ofFragment expression).reads) :
    read.Within expression ∧ read.chars ≠ [] := by
  obtain ⟨token, isToken, _, rfl⟩ := exists_token_of_mem_reads isRead
  exact ⟨Token.lexeme_within_of_mem_scanFrom isToken,
    Token.lexeme_ne_nil_of_mem_scanFrom isToken⟩

/-- The content of a literal keeps off both ends of its token. -/
theorem unquoted_inside {token : Token} (isToken : token ∈ Token.scan expression)
    (isString : token.kind = .string) :
    (unquoted token.lexeme).Within token.lexeme ∧
      token.lexeme.start < (unquoted token.lexeme).start ∧
      (unquoted token.lexeme).stop < token.lexeme.stop := by
  obtain ⟨quoted, charsEq⟩ := Token.exists_quoted_of_mem_scanFrom isToken isString
  have quotePositive : 0 < '"'.utf8Size := Char.utf8Size_pos _
  have contentEq : unquoted token.lexeme =
      ⟨token.lexeme.start + '"'.utf8Size, quoted⟩ := by
    simp [unquoted, Fragment.drop, charsEq]
  rw [contentEq]
  refine ⟨⟨['"'], ['"'], by simp [charsEq], by simp⟩, by simp [quotePositive], ?_⟩
  simp only [Fragment.stop, charsEq, byteSize_cons, byteSize_append, byteSize_nil]
  omega

theorem string_within (isString : string ∈ (ofFragment expression).strings) :
    string.Within expression := by
  obtain ⟨token, isToken, isStringToken, rfl⟩ :=
    exists_stringToken_of_mem_strings isString
  exact (unquoted_inside isToken isStringToken).1.trans
    (Token.lexeme_within_of_mem_scanFrom isToken)

theorem unterminated_within {span : Span}
    (isUnterminated : (ofFragment expression).unterminated = some span) :
    ∃ part : Fragment, part.Within expression ∧ span = part.span := by
  obtain ⟨token, isToken, rfl⟩ := exists_token_of_unterminated isUnterminated
  obtain ⟨tail, within, spanEq⟩ :=
    (Token.lexeme_within_of_mem_scanFrom isToken).toEnd
  exact ⟨tail, within, spanEq.symm⟩

/-! ## Their order -/

theorem reads_pairwise (expression : Fragment) :
    (ofFragment expression).reads.Pairwise fun first second =>
      first.stop < second.start := by
  apply List.Pairwise.sublist (reads_sublist _ _)
  rw [List.pairwise_map]
  have ordered := (Token.scanFrom_pairwise expression.start expression.chars).filter
    (·.kind = .identifier)
  apply ordered.imp_of_mem
  intro first second isFirst isSecond before
  apply before.2
  · simpa using (List.mem_filter.1 isFirst).2
  · simpa using (List.mem_filter.1 isSecond).2

theorem strings_pairwise (expression : Fragment) :
    (ofFragment expression).strings.Pairwise fun first second =>
      first.stop < second.start := by
  apply List.Pairwise.sublist (strings_sublist _ _)
  rw [List.pairwise_map]
  have ordered := (Token.scanFrom_pairwise expression.start expression.chars).filter
    (·.kind = .string)
  apply ordered.imp_of_mem
  intro first second isFirst isSecond before
  obtain ⟨firstToken, firstString⟩ := List.mem_filter.1 isFirst
  obtain ⟨secondToken, secondString⟩ := List.mem_filter.1 isSecond
  have firstInside := unquoted_inside firstToken (by simpa using firstString)
  have secondInside := unquoted_inside secondToken (by simpa using secondString)
  have gap := before.1
  omega

/-- A name and the content of a literal are parts of different tokens. -/
theorem read_apart_string (isRead : read ∈ (ofFragment expression).reads)
    (isString : string ∈ (ofFragment expression).strings) :
    read.stop < string.start ∨ string.stop < read.start := by
  obtain ⟨name, isName, isIdentifier, rfl⟩ := exists_token_of_mem_reads isRead
  obtain ⟨literal, isLiteral, isStringToken, rfl⟩ :=
    exists_stringToken_of_mem_strings isString
  have different : name ≠ literal := by
    rintro rfl
    simp [isIdentifier] at isStringToken
  have inside := unquoted_inside isLiteral isStringToken
  have ordered := Token.scanFrom_pairwise expression.start expression.chars
  rcases before_or_behind ordered isName isLiteral different with before | behind
  · have gap := before.1
    omega
  · have gap := behind.1
    omega

end ExpressionScan

end Gamebook
