import Gamebook.Proofs.FragmentCuts

/-!
# Where the pieces of prose stand

Prose is cut at its interpolations, an interpolation into its selector and the
texts it selects from.  The pieces follow each other, and a body keeps off both
ends of the prose by the opener and the closing brace around it.  The last
statement packages the recursion of expressions and prose into each other as
one induction principle.
-/

namespace Gamebook

theorem Opener.find?_spec {text : List Char} {index size : Nat} {opener : Opener}
    (found : Opener.find? text = some (index, opener, size)) :
    index < text.length ∧ 0 < size := by
  induction text generalizing index with
  | nil => simp [Opener.find?] at found
  | cons char rest ih =>
      rw [Opener.find?] at found
      split at found
      · rename_i kind length ofCharsEq
        simp only [Option.some.injEq, Prod.mk.injEq] at found
        obtain ⟨rfl, rfl, rfl⟩ := found
        refine ⟨by simp, ?_⟩
        unfold Opener.ofChars? at ofCharsEq
        split at ofCharsEq <;> simp at ofCharsEq <;> omega
      · obtain ⟨later, laterEq, mapped⟩ := Option.map_eq_some_iff.1 found
        obtain ⟨laterIndex, laterOpener, laterSize⟩ := later
        simp only [Prod.mk.injEq] at mapped
        obtain ⟨rfl, rfl, rfl⟩ := mapped
        have := ih laterEq
        simp only [List.length_cons]
        omega

/-- The characters of an opener stand between what it divides. -/
theorem stop_lt_start_behind_opener {prose : Fragment} {index size : Nat}
    {opener : Opener} (found : Opener.find? prose.chars = some (index, opener, size)) :
    (prose.take index).stop < (prose.drop (index + size)).start := by
  obtain ⟨inside, positive⟩ := Opener.find?_spec found
  exact Fragment.stop_take_lt_start_drop (by omega) inside

theorem stop_lt_start_behind_brace {inner : Fragment} {close : Nat}
    (closed : closingBrace? 0 inner.chars = some close) :
    (inner.take close).stop < (inner.drop (close + 1)).start :=
  Fragment.stop_take_lt_start_drop (Nat.lt_succ_self close) (closingBrace?_lt closed)

namespace Piece

/-- The text of a piece, without the marks around it. -/
def place : Piece → Fragment
  | plain text => text
  | interpolation _ body => body
  | unclosed text => text

/-- The second piece begins behind the first one, with a further character
between them.  Only an opener that is never closed follows at once. -/
def Before (first second : Piece) : Prop :=
  first.place.stop < second.place.start ∨ ∃ text, second = unclosed text

end Piece

theorem place_within {prose : Fragment} {piece : Piece}
    (isPiece : piece ∈ pieces prose) : piece.place.Within prose := by
  fun_induction pieces prose with
  | case1 prose found =>
      rw [List.mem_singleton] at isPiece
      subst isPiece
      exact Fragment.Within.refl prose
  | case2 prose index opener size found inner isOpen =>
      rcases List.mem_cons.1 isPiece with rfl | isUnclosed
      · exact prose.take_within index
      · rw [List.mem_singleton] at isUnclosed
        subst isUnclosed
        exact prose.drop_within index
  | case3 prose index opener size found inner close closed ih =>
      have innerWithin : inner.Within prose := prose.drop_within (index + size)
      rcases List.mem_cons.1 isPiece with rfl | isLater
      · exact prose.take_within index
      · rcases List.mem_cons.1 isLater with rfl | inRest
        · exact (inner.take_within close).trans innerWithin
        · exact ((ih inRest).trans (inner.drop_within (close + 1))).trans innerWithin

/-- The pieces of prose stand one behind the other. -/
theorem pieces_pairwise (prose : Fragment) :
    (pieces prose).Pairwise Piece.Before := by
  fun_induction pieces prose with
  | case1 prose found => exact List.pairwise_singleton _ _
  | case2 prose index opener size found inner isOpen =>
      refine List.pairwise_cons.2 ⟨?_, List.pairwise_singleton _ _⟩
      intro piece isUnclosed
      exact Or.inr ⟨_, List.mem_singleton.1 isUnclosed⟩
  | case3 prose index opener size found inner close closed ih =>
      have openerGap : (prose.take index).stop < inner.start :=
        stop_lt_start_behind_opener found
      have braceGap := stop_lt_start_behind_brace closed
      have bodyBounds := (inner.take_within close).bounds
      have laterStarts {piece : Piece}
          (isLater : piece ∈ pieces (inner.drop (close + 1))) :
          (inner.drop (close + 1)).start ≤ piece.place.start :=
        (place_within isLater).bounds.1
      refine List.pairwise_cons.2 ⟨?_, List.pairwise_cons.2 ⟨?_, ih⟩⟩
      · intro piece isPiece
        left
        rcases List.mem_cons.1 isPiece with rfl | isLater
        · exact Nat.lt_of_lt_of_le openerGap bodyBounds.1
        · have starts := laterStarts isLater
          have := (inner.take close).start_le_stop
          change (prose.take index).stop < piece.place.start
          omega
      · intro piece isLater
        left
        exact Nat.lt_of_lt_of_le braceGap (laterStarts isLater)

/-- The opener stands before a body, the closing brace behind it. -/
theorem body_inside {prose body : Fragment} {opener : Opener}
    (isPiece : .interpolation opener body ∈ pieces prose) :
    prose.start < body.start ∧ body.stop < prose.stop := by
  fun_induction pieces prose with
  | case1 prose found => simp at isPiece
  | case2 prose index kind size found inner isOpen => simp at isPiece
  | case3 prose index kind size found inner close closed ih =>
      have openerGap : (prose.take index).stop < inner.start :=
        stop_lt_start_behind_opener found
      have braceGap := stop_lt_start_behind_brace closed
      have innerBounds := (prose.drop_within (index + size)).bounds
      have bodyBounds := (inner.take_within close).bounds
      have restBounds := (inner.drop_within (close + 1)).bounds
      have restOrder := (inner.drop (close + 1)).start_le_stop
      have proseStarts : prose.start ≤ (prose.take index).stop :=
        (prose.take index).start_le_stop
      simp only [List.mem_cons, reduceCtorEq, Piece.interpolation.injEq, false_or] at isPiece
      rcases isPiece with ⟨_, rfl⟩ | isLater
      · simp only [inner] at *
        omega
      · have := ih isLater
        simp only [inner] at *
        omega

/-! ## Selectors and alternatives -/

theorem selector_within (body : Fragment) :
    (splitSelector body).1.Within body := by
  exact (Fragment.take_within _ _).trans body.trimStart_within

theorem texts_within (body : Fragment) : (splitSelector body).2.Within body := by
  exact (Fragment.drop_within _ _).trans body.trimStart_within

theorem stop_selector (body : Fragment) :
    (splitSelector body).1.stop = (splitSelector body).2.start := rfl

theorem alternative_within {texts text : Fragment}
    (isText : text ∈ alternatives texts) : text.Within texts :=
  Fragment.within_of_mem_splitOn isText

theorem alternatives_pairwise (texts : Fragment) :
    (alternatives texts).Pairwise fun first second => first.stop < second.start :=
  Fragment.splitOn_pairwise _ _ _

/-! ## Induction over expressions and prose -/

/-- What holds of an expression as soon as it holds of its literals, and of
prose as soon as it holds inside its interpolations, holds of all expressions
and all prose. -/
theorem expression_prose_induction
    {ofExpression : Fragment → Prop} {ofProse : Bool → Fragment → Prop}
    (expressionStep : ∀ expression,
      (∀ string ∈ (ExpressionScan.ofFragment expression).strings,
        ofProse false string) → ofExpression expression)
    (proseStep : ∀ recorded prose,
      (∀ body, .interpolation .value body ∈ pieces prose → ofExpression body) →
      (∀ body, .interpolation .choice body ∈ pieces prose →
        ofExpression (splitSelector body).1 ∧
          ∀ text ∈ alternatives (splitSelector body).2, ofProse recorded text) →
      ofProse recorded prose) :
    (∀ expression, ofExpression expression) ∧
      ∀ recorded prose, ofProse recorded prose := by
  have upTo (bound : Nat) : ∀ fragment : Fragment, fragment.chars.length < bound →
      ofExpression fragment ∧ ∀ recorded, ofProse recorded fragment := by
    induction bound with
    | zero => intro fragment short; omega
    | succ bound ih =>
        intro fragment short
        constructor
        · apply expressionStep
          intro string isString
          have := ExpressionScan.length_string_lt isString
          exact (ih string (by omega)).2 false
        · intro recorded
          apply proseStep
          · intro body isPiece
            have := length_body_lt isPiece
            exact (ih body (by omega)).1
          · intro body isPiece
            have bodyShort := length_body_lt isPiece
            have selectorShort := (length_splitSelector_le body).1
            refine ⟨(ih _ (by omega)).1, ?_⟩
            intro text isText
            have := length_alternative_le isText
            exact (ih text (by omega)).2 recorded
  exact ⟨fun expression => (upTo _ expression (Nat.lt_succ_self _)).1,
    fun recorded prose => (upTo _ prose (Nat.lt_succ_self _)).2 recorded⟩

end Gamebook
