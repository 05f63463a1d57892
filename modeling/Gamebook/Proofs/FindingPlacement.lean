import Gamebook.Proofs.ProsePieces
import Gamebook.Proofs.TokenSeparation

/-!
# Findings keep to their places

A finding is made in a part of some text, and findings are kept apart: no two
occurrences overlap, and between two names stands at least one character.
`Placed` says both of a list of findings, relative to the fragment they were
read from.  The main result is that expressions and prose are placed in
themselves, by one induction over both.
-/

namespace Gamebook

/-- The inner span lies in the outer one. -/
def Span.Covers (outer inner : Span) : Prop :=
  outer.start ≤ inner.start ∧ inner.stop ≤ outer.stop

instance (outer inner : Span) : Decidable (outer.Covers inner) :=
  inferInstanceAs (Decidable (_ ∧ _))

namespace Occurrence

/-- The first occurrence ends before the second begins; between two names
stands a further character. -/
def Before (first second : Occurrence) : Prop :=
  first.span.stop ≤ second.span.start ∧
    (first.isText = false → second.isText = false →
      first.span.stop < second.span.start)

/-- Neither occurrence reaches into the other. -/
def Apart (first second : Occurrence) : Prop :=
  first.Before second ∨ second.Before first

theorem Apart.symm {first second : Occurrence} (apart : first.Apart second) :
    second.Apart first :=
  Or.symm apart

end Occurrence

namespace Finding

/-- The finding was made on line `number` in a part of `place`; what an
occurrence names is the text of that part. -/
def On (number : Nat) (place : Fragment) : Finding → Prop
  | occurrence found => ∃ (role : Role) (part : Fragment), part.Within place ∧
      part.chars ≠ [] ∧ found = .ofFragment role part number
  | fault found => ∃ part : Fragment, part.Within place ∧ found.span = part.span

/-- The occurrences among two findings are apart. -/
def Apart (first second : Finding) : Prop :=
  ∀ left, first.occurrence? = some left → ∀ right, second.occurrence? = some right →
    left.Apart right

/-- A name in the finding keeps off both ends of `place`. -/
def Sheltered (place : Fragment) (finding : Finding) : Prop :=
  ∀ found, finding.occurrence? = some found → found.isText = false →
    place.start < found.span.start ∧ found.span.stop < place.stop

variable {number other : Nat} {place larger left right : Fragment}
  {first second finding : Finding}

theorem On.mono (on : finding.On number place) (within : place.Within larger) :
    finding.On number larger := by
  cases finding with
  | occurrence found =>
      obtain ⟨role, part, partWithin, notEmpty, foundEq⟩ := on
      exact ⟨role, part, partWithin.trans within, notEmpty, foundEq⟩
  | fault found =>
      obtain ⟨part, partWithin, spanEq⟩ := on
      exact ⟨part, partWithin.trans within, spanEq⟩

theorem On.occurrence_spec {found : Occurrence} (on : finding.On number place)
    (foundEq : finding.occurrence? = some found) :
    ∃ (role : Role) (part : Fragment), part.Within place ∧ part.chars ≠ [] ∧
      found = .ofFragment role part number := by
  cases finding with
  | occurrence inner =>
      obtain rfl : inner = found := by simpa [occurrence?] using foundEq
      exact on
  | fault inner => simp [occurrence?] at foundEq

theorem On.bounds {found : Occurrence} (on : finding.On number place)
    (foundEq : finding.occurrence? = some found) :
    place.chars ≠ [] ∧ place.start ≤ found.span.start ∧
      found.span.start < found.span.stop ∧ found.span.stop ≤ place.stop := by
  obtain ⟨role, part, within, notEmpty, rfl⟩ := on.occurrence_spec foundEq
  have bounds := within.bounds
  exact ⟨within.notEmpty notEmpty, bounds.1, Fragment.start_lt_stop notEmpty, bounds.2⟩

theorem On.apart (firstOn : first.On number left) (secondOn : second.On other right)
    (before : left.Before right) : first.Apart second := by
  intro leftFound leftEq rightFound rightEq
  have leftBounds := firstOn.bounds leftEq
  have rightBounds := secondOn.bounds rightEq
  have gap := before rightBounds.1
  left
  constructor
  · omega
  · intro _ _
    omega

/-- Names that keep off the border of their place may follow at once. -/
theorem On.apart_sheltered (firstOn : first.On number left)
    (secondOn : second.On other right) (sheltered : second.Sheltered right)
    (follows : left.stop ≤ right.start) : first.Apart second := by
  intro leftFound leftEq rightFound rightEq
  have leftBounds := firstOn.bounds leftEq
  have rightBounds := secondOn.bounds rightEq
  left
  constructor
  · omega
  · intro _ rightNamed
    have := sheltered rightFound rightEq rightNamed
    omega

theorem Apart.symm (apart : first.Apart second) : second.Apart first := by
  intro left leftEq right rightEq
  exact (apart right rightEq left leftEq).symm

theorem Apart.of_silent (silent : first.occurrence? = none) : first.Apart second := by
  intro left leftEq
  simp [silent] at leftEq

theorem apart_fault (finding : Finding) (cause : FaultCause) (span : Span) :
    finding.Apart (.wrong cause span) :=
  (Apart.of_silent rfl).symm

end Finding

/-- The findings were made on line `number` in `place`, and are apart. -/
structure Placed (number : Nat) (place : Fragment) (findings : List Finding) : Prop where
  on : ∀ finding ∈ findings, finding.On number place
  apart : findings.Pairwise Finding.Apart

namespace Placed

variable {number : Nat} {place larger left right : Fragment}
  {findings first second : List Finding}

theorem nil (number : Nat) (place : Fragment) : Placed number place [] :=
  ⟨by simp, List.Pairwise.nil⟩

theorem mono (placed : Placed number place findings) (within : place.Within larger) :
    Placed number larger findings :=
  ⟨fun finding isFinding => (placed.on finding isFinding).mono within, placed.apart⟩

theorem wrong (number : Nat) (cause : FaultCause) {part : Fragment}
    (within : part.Within place) : Placed number place [.wrong cause part.span] := by
  refine ⟨?_, List.pairwise_singleton _ _⟩
  intro finding isFinding
  rw [List.mem_singleton] at isFinding
  subst isFinding
  exact ⟨part, within, rfl⟩

theorem mention (number : Nat) (role : Role) {part : Fragment}
    (within : part.Within place) (notEmpty : part.chars ≠ []) :
    Placed number place [.mention role number part] := by
  refine ⟨?_, List.pairwise_singleton _ _⟩
  intro finding isFinding
  rw [List.mem_singleton] at isFinding
  subst isFinding
  exact ⟨role, part, within, notEmpty, rfl⟩

theorem append_of_apart (firstPlaced : Placed number place first)
    (secondPlaced : Placed number place second)
    (apart : ∀ left ∈ first, ∀ right ∈ second, left.Apart right) :
    Placed number place (first ++ second) := by
  constructor
  · exact List.forall_mem_append.2 ⟨firstPlaced.on, secondPlaced.on⟩
  · exact List.pairwise_append.2 ⟨firstPlaced.apart, secondPlaced.apart, apart⟩

theorem append_of_silent (firstPlaced : Placed number place first)
    (secondPlaced : Placed number place second)
    (silent : ∀ finding ∈ first, finding.occurrence? = none) :
    Placed number place (first ++ second) :=
  firstPlaced.append_of_apart secondPlaced fun left isLeft _ _ =>
    .of_silent (silent left isLeft)

theorem append (firstPlaced : Placed number left first)
    (secondPlaced : Placed number right second) (leftWithin : left.Within place)
    (rightWithin : right.Within place) (before : left.Before right) :
    Placed number place (first ++ second) := by
  apply append_of_apart (firstPlaced.mono leftWithin) (secondPlaced.mono rightWithin)
  intro leftFinding isLeft rightFinding isRight
  exact (firstPlaced.on _ isLeft).apart (secondPlaced.on _ isRight) before

theorem flatMap {Item : Type} {items : List Item} (part : Item → Fragment)
    {found : Item → List Finding}
    (each : ∀ item ∈ items, Placed number (part item) (found item))
    (within : ∀ item ∈ items, (part item).Within place)
    (ordered : items.Pairwise fun first second =>
      (part first).stop < (part second).start) :
    Placed number place (items.flatMap found) := by
  constructor
  · intro finding isFinding
    obtain ⟨item, isItem, inItem⟩ := List.mem_flatMap.1 isFinding
    exact ((each item isItem).on finding inItem).mono (within item isItem)
  · rw [List.pairwise_flatMap]
    refine ⟨fun item isItem => (each item isItem).apart, ?_⟩
    apply ordered.imp_of_mem
    intro leftItem rightItem isLeft isRight gap leftFinding inLeft rightFinding inRight
    exact ((each _ isLeft).on _ inLeft).apart ((each _ isRight).on _ inRight)
      fun _ => gap

end Placed

/-! ## Expressions -/

section Mentions

variable {number : Nat} {recorded : Bool} {expression prose body : Fragment}

theorem placed_reads (number : Nat) (expression : Fragment) :
    Placed number expression
      ((ExpressionScan.ofFragment expression).reads.map
        (.mention .variableRead number)) := by
  rw [List.map_eq_flatMap]
  apply Placed.flatMap id
  · intro read isRead
    exact .mention number _ (Fragment.Within.refl read)
      (ExpressionScan.read_within isRead).2
  · intro read isRead
    exact (ExpressionScan.read_within isRead).1
  · exact ExpressionScan.reads_pairwise expression

theorem placed_unterminated (number : Nat) (expression : Fragment) :
    Placed number expression
      ((ExpressionScan.ofFragment expression).unterminated.toList.map
        (.wrong .unterminatedString)) := by
  cases spanEq : (ExpressionScan.ofFragment expression).unterminated with
  | none => exact .nil number expression
  | some span =>
      obtain ⟨part, within, rfl⟩ := ExpressionScan.unterminated_within spanEq
      exact .wrong number _ within

theorem placed_expression_of_strings
    (strings : ∀ string ∈ (ExpressionScan.ofFragment expression).strings,
      Placed number string (proseFindings number false string)) :
    Placed number expression (expressionFindings number expression) := by
  have inStrings : Placed number expression
      ((ExpressionScan.ofFragment expression).strings.flatMap
        (proseFindings number false)) :=
    .flatMap id strings (fun _ => ExpressionScan.string_within)
      (ExpressionScan.strings_pairwise expression)
  rw [expressionFindings_eq]
  apply Placed.append_of_apart _ (placed_unterminated number expression)
  · intro finding _ fault isFault
    obtain ⟨span, _, rfl⟩ := List.mem_map.1 isFault
    exact Finding.apart_fault finding _ span
  · apply Placed.append_of_apart (placed_reads number expression) inStrings
    intro name isName finding isFinding
    obtain ⟨read, isRead, rfl⟩ := List.mem_map.1 isName
    obtain ⟨string, isString, inString⟩ := List.mem_flatMap.1 isFinding
    have nameOn : (Finding.mention .variableRead number read).On number read :=
      ⟨_, read, Fragment.Within.refl read, (ExpressionScan.read_within isRead).2, rfl⟩
    have findingOn := (strings string isString).on finding inString
    -- a name may stand before or behind a literal
    rcases ExpressionScan.read_apart_string isRead isString with before | behind
    · exact nameOn.apart findingOn fun _ => before
    · exact (findingOn.apart nameOn fun _ => behind).symm

/-! ## Prose -/

theorem placed_plain (number : Nat) (text : Fragment) :
    Placed number text (plainFindings number text) := by
  unfold plainFindings
  split
  · rename_i hasLetter
    apply Placed.mention number _ (Fragment.Within.refl text)
    intro isNil
    simp [isNil] at hasLetter
  · exact .nil number text

theorem sheltered_plain (number : Nat) (text place : Fragment) :
    ∀ finding ∈ plainFindings number text, finding.Sheltered place := by
  intro finding isFinding found foundEq named
  unfold plainFindings at isFinding
  split at isFinding
  · rw [List.mem_singleton] at isFinding
    subst isFinding
    obtain rfl : Occurrence.ofFragment .text text number = found := by
      simpa [Finding.mention, Finding.occurrence?] using foundEq
    simp [Occurrence.isText, Occurrence.kind, Occurrence.ofFragment, Role.kind] at named
  · simp at isFinding

theorem sheltered_of_on_body {finding : Finding} {opener : Opener}
    (isPiece : .interpolation opener body ∈ pieces prose)
    (on : finding.On number body) : finding.Sheltered prose := by
  intro found foundEq _
  have bounds := on.bounds foundEq
  have inside := body_inside isPiece
  omega

/-- An interpolation is placed if its selector and its texts are, and no name
stands at the border of a text. -/
theorem placed_choice
    (selector : Placed number (splitSelector body).1
      (expressionFindings number (splitSelector body).1))
    (texts : ∀ text ∈ alternatives (splitSelector body).2,
      Placed number text (proseFindings number recorded text) ∧
        ∀ finding ∈ proseFindings number recorded text, finding.Sheltered text) :
    Placed number body (pieceFindings number recorded (.interpolation .choice body)) := by
  have inTexts : Placed number body
      ((alternatives (splitSelector body).2).flatMap (proseFindings number recorded)) := by
    apply Placed.flatMap id
    · intro text isText
      exact (texts text isText).1
    · intro text isText
      exact (alternative_within isText).trans (texts_within body)
    · exact alternatives_pairwise _
  apply Placed.append_of_apart (selector.mono (selector_within body)) inTexts
  intro left isLeft right isRight
  obtain ⟨text, isText, inText⟩ := List.mem_flatMap.1 isRight
  obtain ⟨textPlaced, textSheltered⟩ := texts text isText
  apply (selector.on left isLeft).apart_sheltered (textPlaced.on right inText)
    (textSheltered right inText)
  rw [stop_selector]
  exact (alternative_within isText).bounds.1

theorem placed_prose_of_pieces
    (each : ∀ piece ∈ pieces prose,
      Placed number piece.place (pieceFindings number recorded piece)) :
    Placed number prose (proseFindings number recorded prose) := by
  rw [proseFindings_eq]
  constructor
  · intro finding isFinding
    obtain ⟨piece, isPiece, inPiece⟩ := List.mem_flatMap.1 isFinding
    exact ((each piece isPiece).on finding inPiece).mono (place_within isPiece)
  · rw [List.pairwise_flatMap]
    refine ⟨fun piece isPiece => (each piece isPiece).apart, ?_⟩
    apply (pieces_pairwise prose).imp_of_mem
    intro left right isLeft isRight before leftFinding inLeft rightFinding inRight
    rcases before with gap | ⟨text, rfl⟩
    · exact ((each _ isLeft).on _ inLeft).apart ((each _ isRight).on _ inRight)
        fun _ => gap
    · -- an opener that is never closed is only a fault
      obtain rfl := List.mem_singleton.1 inRight
      exact Finding.apart_fault leftFinding _ _

theorem sheltered_prose_of_pieces
    (each : ∀ piece ∈ pieces prose,
      Placed number piece.place (pieceFindings number recorded piece)) :
    ∀ finding ∈ proseFindings number recorded prose, finding.Sheltered prose := by
  intro finding isFinding
  rw [proseFindings_eq] at isFinding
  obtain ⟨piece, isPiece, inPiece⟩ := List.mem_flatMap.1 isFinding
  cases piece with
  | plain text =>
      simp only [pieceFindings] at inPiece
      split at inPiece
      · exact sheltered_plain number text prose finding inPiece
      · simp at inPiece
  | unclosed text =>
      obtain rfl := List.mem_singleton.1 inPiece
      intro found foundEq
      simp [Finding.wrong, Finding.occurrence?] at foundEq
  | interpolation opener body =>
      exact sheltered_of_on_body isPiece ((each _ isPiece).on finding inPiece)

/-- Whatever expressions and prose mention is placed in them, and the names in
prose keep off its ends. -/
theorem placed_mentions (number : Nat) :
    (∀ expression, Placed number expression (expressionFindings number expression)) ∧
      ∀ recorded prose, Placed number prose (proseFindings number recorded prose) ∧
        ∀ finding ∈ proseFindings number recorded prose, finding.Sheltered prose := by
  apply expression_prose_induction
  · intro expression strings
    exact placed_expression_of_strings fun string isString => (strings string isString).1
  · intro recorded prose values choices
    have each : ∀ piece ∈ pieces prose,
        Placed number piece.place (pieceFindings number recorded piece) := by
      intro piece isPiece
      cases piece with
      | plain text =>
          simp only [pieceFindings, Piece.place]
          split
          · exact placed_plain number text
          · exact .nil number text
      | unclosed text => exact .wrong number _ (Fragment.Within.refl text)
      | interpolation opener body =>
          cases opener with
          | value => exact values body isPiece
          | choice =>
              obtain ⟨selector, texts⟩ := choices body isPiece
              exact placed_choice selector texts
    exact ⟨placed_prose_of_pieces each, sheltered_prose_of_pieces each⟩

theorem placed_expression (number : Nat) (expression : Fragment) :
    Placed number expression (expressionFindings number expression) :=
  (placed_mentions number).1 expression

theorem placed_prose (number : Nat) (recorded : Bool) (prose : Fragment) :
    Placed number prose (proseFindings number recorded prose) :=
  ((placed_mentions number).2 recorded prose).1

end Mentions

end Gamebook
