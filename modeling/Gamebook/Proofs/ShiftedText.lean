import Mathlib.Data.List.Basic
import Gamebook.Proofs.ProsePieces

/-!
# Reading shifted text

Nothing that reads a fragment looks at the offset at which the fragment starts.
So a fragment that stands further behind is cut in the same places, and what is
noticed in it is the same, moved by the same distance.  There is one statement
for each function on the way from the characters to the findings of a line.
-/

namespace Gamebook

/-! ## Cuts of a fragment -/

namespace Fragment

/-- The fragment moved right by `distance` bytes. -/
def shift (fragment : Fragment) (distance : Nat) : Fragment :=
  ⟨fragment.start + distance, fragment.chars⟩

variable (fragment : Fragment) (distance : Nat)

@[simp]
theorem chars_shift : (fragment.shift distance).chars = fragment.chars := rfl

@[simp]
theorem text_shift : (fragment.shift distance).text = fragment.text := rfl

@[simp]
theorem isEmpty_shift : (fragment.shift distance).isEmpty = fragment.isEmpty := rfl

@[simp]
theorem start_shift : (fragment.shift distance).start = fragment.start + distance := rfl

@[simp]
theorem stop_shift : (fragment.shift distance).stop = fragment.stop + distance := by
  simp only [stop, start_shift, chars_shift, Nat.add_right_comm]

@[simp]
theorem span_shift : (fragment.shift distance).span = fragment.span.shift distance := by
  simp only [span, start_shift, stop_shift, Span.shift]

@[simp]
theorem take_shift (count : Nat) :
    (fragment.shift distance).take count = (fragment.take count).shift distance := rfl

@[simp]
theorem drop_shift (count : Nat) :
    (fragment.shift distance).drop count = (fragment.drop count).shift distance := by
  simp only [drop, shift, Nat.add_right_comm]

@[simp]
theorem takeWhile_shift (keep : Char → Bool) :
    (fragment.shift distance).takeWhile keep =
      (fragment.takeWhile keep).shift distance := rfl

@[simp]
theorem dropWhile_shift (discard : Char → Bool) :
    (fragment.shift distance).dropWhile discard =
      (fragment.dropWhile discard).shift distance := by
  simp only [dropWhile, shift, Nat.add_right_comm]

@[simp]
theorem trimStart_shift :
    (fragment.shift distance).trimStart = fragment.trimStart.shift distance :=
  fragment.dropWhile_shift distance isBlank

@[simp]
theorem trimEnd_shift :
    (fragment.shift distance).trimEnd = fragment.trimEnd.shift distance := rfl

theorem splitWord?_shift :
    (fragment.shift distance).splitWord? =
      fragment.splitWord?.map fun (word, rest) =>
        (word.shift distance, rest.shift distance) := by
  simp only [splitWord?, trimStart_shift, isEmpty_shift, takeWhile_shift, dropWhile_shift]
  split <;> rfl

theorem splitOn_shift (isBorder : Char → Bool) (start : Nat) (text : List Char) :
    splitOn isBorder (start + distance) text =
      (splitOn isBorder start text).map (·.shift distance) := by
  induction text generalizing start with
  | nil => rfl
  | cons char rest ih =>
      have later := ih (start + char.utf8Size)
      rw [Nat.add_right_comm] at later
      simp only [splitOn]
      split
      · rw [later]
        rfl
      · obtain ⟨first, others, splitEq⟩ :=
          exists_splitOn_eq_cons isBorder (start + char.utf8Size) rest
        rw [later, splitEq]
        rfl

@[simp]
theorem split_shift (isBorder : Char → Bool) :
    (fragment.shift distance).split isBorder =
      (fragment.split isBorder).map (·.shift distance) :=
  splitOn_shift distance isBorder fragment.start fragment.chars

@[simp]
theorem words_shift :
    (fragment.shift distance).words = fragment.words.map (·.shift distance) := by
  simp only [words, split_shift, List.filter_map]
  rfl

end Fragment

/-! ## Expressions -/

/-- The token moved right by `distance` bytes. -/
def Token.shift (token : Token) (distance : Nat) : Token :=
  ⟨token.kind, token.lexeme.shift distance⟩

@[simp]
theorem Token.kind_shift (token : Token) (distance : Nat) :
    (token.shift distance).kind = token.kind := rfl

@[simp]
theorem Token.lexeme_shift (token : Token) (distance : Nat) :
    (token.shift distance).lexeme = token.lexeme.shift distance := rfl

theorem Token.scanFrom_shift (distance start : Nat) (text : List Char) :
    scanFrom (start + distance) text = (scanFrom start text).map (·.shift distance) := by
  fun_induction scanFrom start text with
  | case1 start => simp [scanFrom]
  | case2 start char rest blank ih =>
      rw [scanFrom, if_pos blank, Nat.add_right_comm, ih]
  | case3 start char rest notBlank scanned ih =>
      rw [scanFrom, if_neg notBlank]
      dsimp only
      rw [Nat.add_right_comm, ih]
      rfl

namespace ExpressionScan

/-- What is mentioned, moved right by `distance` bytes. -/
def shift (scan : ExpressionScan) (distance : Nat) : ExpressionScan where
  reads := scan.reads.map (·.shift distance)
  strings := scan.strings.map (·.shift distance)
  unterminated := scan.unterminated.map (·.shift distance)

@[simp]
theorem unquoted_shift (lexeme : Fragment) (distance : Nat) :
    unquoted (lexeme.shift distance) = (unquoted lexeme).shift distance := by
  simp only [unquoted, Fragment.drop_shift]
  rfl

theorem ofTokens_shift (distance stop : Nat) (tokens : List Token) :
    ofTokens (stop + distance) (tokens.map (·.shift distance)) =
      (ofTokens stop tokens).shift distance := by
  induction tokens with
  | nil => rfl
  | cons token rest ih =>
      simp only [List.map_cons, ofTokens, ih, Token.kind_shift, Token.lexeme_shift,
        Fragment.text_shift, Fragment.chars_shift, unquoted_shift]
      split
      · split <;> rfl
      · rfl
      · split <;> rfl
      · rfl

@[simp]
theorem ofFragment_shift (fragment : Fragment) (distance : Nat) :
    ofFragment (fragment.shift distance) = (ofFragment fragment).shift distance := by
  rw [ofFragment, Token.scan, Fragment.stop_shift, Fragment.start_shift,
    Token.scanFrom_shift, ofTokens_shift]
  rfl

end ExpressionScan

/-! ## Prose -/

/-- The piece moved right by `distance` bytes. -/
def Piece.shift (distance : Nat) : Piece → Piece
  | .plain text => .plain (text.shift distance)
  | .interpolation opener body => .interpolation opener (body.shift distance)
  | .unclosed text => .unclosed (text.shift distance)

section Pieces

variable {prose : Fragment} {index size close : Nat} {opener : Opener}

theorem pieces_of_plain (found : Opener.find? prose.chars = none) :
    pieces prose = [.plain prose] := by
  rw [pieces]
  split <;> simp_all

theorem pieces_of_unclosed (found : Opener.find? prose.chars = some (index, opener, size))
    (isOpen : closingBrace? 0 (prose.drop (index + size)).chars = none) :
    pieces prose = [.plain (prose.take index), .unclosed (prose.drop index)] := by
  rw [pieces]
  split <;> simp_all

theorem pieces_of_closed (found : Opener.find? prose.chars = some (index, opener, size))
    (closed : closingBrace? 0 (prose.drop (index + size)).chars = some close) :
    pieces prose =
      .plain (prose.take index) ::
        .interpolation opener ((prose.drop (index + size)).take close) ::
          pieces ((prose.drop (index + size)).drop (close + 1)) := by
  rw [pieces]
  split <;> simp_all

end Pieces

@[simp]
theorem pieces_shift (prose : Fragment) (distance : Nat) :
    pieces (prose.shift distance) = (pieces prose).map (·.shift distance) := by
  fun_induction pieces prose with
  | case1 prose found => exact pieces_of_plain found
  | case2 prose index opener size found inner isOpen =>
      have cut := @pieces_of_unclosed (prose.shift distance) index size opener found
      rw [Fragment.drop_shift, Fragment.drop_shift] at cut
      exact cut isOpen
  | case3 prose index opener size found inner close closed ih =>
      have cut := @pieces_of_closed (prose.shift distance) index size close opener found
      rw [Fragment.drop_shift, Fragment.drop_shift] at cut
      rw [cut closed, List.map_cons, List.map_cons, ← ih]
      rfl

@[simp]
theorem splitSelector_shift (body : Fragment) (distance : Nat) :
    splitSelector (body.shift distance) =
      ((splitSelector body).1.shift distance, (splitSelector body).2.shift distance) := by
  simp [splitSelector]

@[simp]
theorem alternatives_shift (texts : Fragment) (distance : Nat) :
    alternatives (texts.shift distance) = (alternatives texts).map (·.shift distance) :=
  texts.split_shift distance _

/-! ## Findings -/

/-- The occurrence moved right by `bytes` and down by `lines`. -/
def Occurrence.shift (occurrence : Occurrence) (bytes lines : Nat) : Occurrence where
  role := occurrence.role
  name := occurrence.name
  span := occurrence.span.shift bytes
  line := occurrence.line + lines

/-- The finding moved right by `bytes` and down by `lines`. -/
def Finding.shift (bytes lines : Nat) : Finding → Finding
  | .occurrence found => .occurrence (found.shift bytes lines)
  | .fault found => .fault ⟨found.cause, found.span.shift bytes⟩

section Findings

variable (bytes lines number : Nat)

@[simp]
theorem Finding.shift_mention (role : Role) (fragment : Fragment) :
    (mention role number fragment).shift bytes lines =
      mention role (number + lines) (fragment.shift bytes) := by
  simp only [mention, Occurrence.ofFragment, Fragment.span_shift]
  rfl

@[simp]
theorem Finding.shift_wrong (cause : FaultCause) (span : Span) :
    (wrong cause span).shift bytes lines = wrong cause (span.shift bytes) := rfl

theorem plainFindings_shift (text : Fragment) :
    plainFindings (number + lines) (text.shift bytes) =
      (plainFindings number text).map (·.shift bytes lines) := by
  rw [plainFindings, plainFindings, apply_ite (List.map (Finding.shift bytes lines))]
  rw [Fragment.chars_shift, List.map_singleton, Finding.shift_mention, List.map_nil]

/-- Expressions and prose are read alike wherever they stand. -/
theorem expression_prose_shift :
    (∀ expression,
      expressionFindings (number + lines) (expression.shift bytes) =
        (expressionFindings number expression).map (·.shift bytes lines)) ∧
      ∀ recorded prose,
        proseFindings (number + lines) recorded (prose.shift bytes) =
          (proseFindings number recorded prose).map (·.shift bytes lines) := by
  apply expression_prose_induction
  · intro expression ofStrings
    rw [expressionFindings_eq, expressionFindings_eq, ExpressionScan.ofFragment_shift]
    have strings := List.flatMap_congr ofStrings
    simp [ExpressionScan.shift, List.map_flatMap, List.flatMap_map, strings, Option.toList_map,
      Function.comp_def]
  · intro recorded prose ofValue ofChoice
    rw [proseFindings_eq, proseFindings_eq, pieces_shift, List.flatMap_map, List.map_flatMap]
    apply List.flatMap_congr
    intro piece isPiece
    match piece with
    | .plain text =>
        cases recorded with
        | true => exact plainFindings_shift bytes lines number text
        | false => rfl
    | .unclosed text => simp [Piece.shift, pieceFindings]
    | .interpolation .value body => exact ofValue body isPiece
    | .interpolation .choice body =>
        obtain ⟨selector, texts⟩ := ofChoice body isPiece
        simp only [Piece.shift, pieceFindings, splitSelector_shift, alternatives_shift,
          selector, List.flatMap_map, List.map_append, List.map_flatMap,
          List.flatMap_congr texts]

@[simp]
theorem expressionFindings_shift (expression : Fragment) :
    expressionFindings (number + lines) (expression.shift bytes) =
      (expressionFindings number expression).map (·.shift bytes lines) :=
  (expression_prose_shift bytes lines number).1 expression

@[simp]
theorem proseFindings_shift (recorded : Bool) (prose : Fragment) :
    proseFindings (number + lines) recorded (prose.shift bytes) =
      (proseFindings number recorded prose).map (·.shift bytes lines) :=
  (expression_prose_shift bytes lines number).2 recorded prose

@[simp]
theorem nameFindings_shift (role : Role) (word : Fragment) :
    nameFindings role (number + lines) (word.shift bytes) =
      (nameFindings role number word).map (·.shift bytes lines) := by
  rw [nameFindings, nameFindings, apply_ite (List.map (Finding.shift bytes lines))]
  simp

@[simp]
theorem isComputed_shift (word : Fragment) :
    isComputed (word.shift bytes) = isComputed word := rfl

theorem sceneLabelFindings_shift (scene : Fragment) (label : Option (Fragment × Fragment)) :
    sceneLabelFindings (number + lines) (scene.shift bytes)
        (label.map fun (word, rest) => (word.shift bytes, rest.shift bytes)) =
      (sceneLabelFindings number scene label).map (·.shift bytes lines) := by
  cases label with
  | none => rfl
  | some parts =>
      by_cases computed : isComputed parts.1 = true <;> simp [sceneLabelFindings, computed]

/-- The arguments of a command are read alike wherever they stand. -/
theorem argumentFindings_shift (arguments : Fragment) (form : Arguments) :
    argumentFindings (number + lines) (arguments.shift bytes) form =
      (argumentFindings number arguments form).map (·.shift bytes lines) := by
  cases form with
  | plain => rfl
  | expression => exact expressionFindings_shift bytes lines number arguments
  | prose => exact proseFindings_shift bytes lines number true arguments
  | parameters =>
      simp [argumentFindings, List.flatMap_map, List.map_flatMap]
  | declaration scope =>
      simp only [argumentFindings, Fragment.splitWord?_shift]
      cases arguments.splitWord? with
      | none => rfl
      | some parts => cases scope <;> simp [declarationRole]
  | assignment =>
      simp only [argumentFindings, Fragment.splitWord?_shift]
      cases arguments.splitWord? with
      | none => rfl
      | some parts =>
          by_cases named : isName parts.1.chars = true <;> simp [named]
  | jump =>
      simp only [argumentFindings, Fragment.splitWord?_shift]
      cases arguments.splitWord? with
      | none => rfl
      | some parts =>
          by_cases computed : isComputed parts.1 = true <;> simp [computed]
  | sceneJump =>
      simp only [argumentFindings, Fragment.splitWord?_shift]
      cases arguments.splitWord? with
      | none => rfl
      | some parts =>
          simp [Fragment.splitWord?_shift, sceneLabelFindings_shift]
  | label | achievement | award =>
      simp only [argumentFindings, Fragment.splitWord?_shift]
      cases arguments.splitWord? with
      | none => rfl
      | some parts => simp [achievementTitle]

theorem sceneOfRow?_shift (row : Fragment) :
    sceneOfRow? (row.shift bytes) = (sceneOfRow? row).map (·.shift bytes) := by
  rw [sceneOfRow?, sceneOfRow?, Fragment.words_shift, List.find?_map]
  rfl

@[simp]
theorem isChartRow_shift (word : Fragment) :
    isChartRow (word.shift bytes) = isChartRow word := rfl

theorem chartRowFindings_shift (row : Fragment) :
    chartRowFindings (number + lines) (row.shift bytes) =
      (chartRowFindings number row).map (·.shift bytes lines) := by
  rw [chartRowFindings, chartRowFindings, Fragment.splitWord?_shift]
  cases row.splitWord? with
  | none => rfl
  | some parts => simp

end Findings

end Gamebook
