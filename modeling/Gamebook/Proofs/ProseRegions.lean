import Gamebook.Proofs.FindingPlacement
import Gamebook.Proofs.ShiftedText

/-!
# Regions of prose

An interpolation takes up a region of prose, from its opener to the brace that closes
it.  `Reached` tells which places of a text are outside all regions: the text is read
from the left, one character or one whole region at a time.  The pieces into which
prose is cut obey the same rules, so that plain pieces hold what is outside regions
(`exists_plain_of_reached`) and keep off the regions (`piece_of_region`).
-/

namespace Gamebook

/-! ## Regions -/

/-- The ways to write the opener. -/
def Opener.openings : Opener → List (List Char)
  | value => [['$', '{'], ['$', '!', '{'], ['$', '!', '!', '{']]
  | choice => [['@', '{']]

/-- No interpolation begins in the text. -/
def OpenerFree (text : List Char) : Prop :=
  ∀ opener : Opener, ∀ opening ∈ opener.openings, ¬ opening <:+: text

/-- The text closes `depth` braces that are open before it, all those that it opens, and
no others. -/
structure Closes (depth : Nat) (text : List Char) : Prop where
  noOther : ∀ front back, text = front ++ back → front.count '}' ≤ depth + front.count '{'
  all : text.count '}' = depth + text.count '{'

/-- An interpolation from its opener to the brace that closes it. -/
inductive Region (opener : Opener) : List Char → Prop
  | intro {opening body : List Char} (isOpening : opening ∈ opener.openings)
      (closes : Closes 0 body) : Region opener (opening ++ (body ++ ['}']))

/-- No region begins with the text. -/
def NoRegion (text : List Char) : Prop :=
  ∀ opener region, Region opener region → ¬ region <+: text

/-- The text can be read up to some place, with `before` read and `after` left, so that the
place is outside all regions. -/
inductive Reached : List Char → List Char → List Char → Prop
  | start (text : List Char) : Reached text [] text
  | past {char : Char} {rest before after : List Char} (noRegion : NoRegion (char :: rest))
      (reached : Reached rest before after) : Reached (char :: rest) (char :: before) after
  | across {opener : Opener} {region rest before after : List Char}
      (isRegion : Region opener region) (reached : Reached rest before after) :
      Reached (region ++ rest) (region ++ before) after

/-- A region of the text behind `before`. -/
def RegionAt (text before region : List Char) (opener : Opener) : Prop :=
  Region opener region ∧ ∃ after, Reached text before (region ++ after)

/-- Behind `before` the text has an opener outside all regions that no brace closes. -/
def Unclosed (text before : List Char) : Prop :=
  ∃ opener : Opener, ∃ opening ∈ opener.openings, ∃ after,
    Reached text before (opening ++ after) ∧ NoRegion (opening ++ after)

/-- The character behind `before` is outside all regions of the text, and no opener before
it is left open. -/
structure Outlying (text before : List Char) : Prop where
  outside : ∀ opener start region, RegionAt text start region opener →
    before.length < start.length ∨ start.length + region.length ≤ before.length
  beforeUnclosed : ∀ start, Unclosed text start → before.length < start.length

/-! ## Openers and braces -/

namespace Opener

variable {opener : Opener} {opening text : List Char}

theorem ofChars?_eq_some_iff {size : Nat} :
    ofChars? text = some (opener, size) ↔
      ∃ opening ∈ opener.openings, opening.length = size ∧ opening <+: text := by
  constructor
  · intro isOpener
    unfold ofChars? at isOpener
    split at isOpener <;> cases isOpener
    · exact ⟨['$', '{'], by simp [openings], rfl, ⟨_, rfl⟩⟩
    · exact ⟨['$', '!', '{'], by simp [openings], rfl, ⟨_, rfl⟩⟩
    · exact ⟨['$', '!', '!', '{'], by simp [openings], rfl, ⟨_, rfl⟩⟩
    · exact ⟨['@', '{'], by simp [openings], rfl, ⟨_, rfl⟩⟩
  · rintro ⟨opening, isOpening, rfl, rest, rfl⟩
    cases opener with
    | value =>
        simp only [openings, List.mem_cons, List.not_mem_nil, or_false] at isOpening
        rcases isOpening with rfl | rfl | rfl <;> rfl
    | choice =>
        obtain rfl := List.mem_singleton.1 isOpening
        rfl

theorem not_prefix_of_ofChars? (noOpener : ofChars? text = none)
    (isOpening : opening ∈ opener.openings) : ¬ opening <+: text := by
  intro begins
  rw [ofChars?_eq_some_iff.2 ⟨opening, isOpening, rfl, begins⟩] at noOpener
  contradiction

theorem ne_nil_of_mem_openings (isOpening : opening ∈ opener.openings) : opening ≠ [] := by
  rintro rfl
  cases opener <;> simp [openings] at isOpening

/-- Without an opener in sight the text has none. -/
theorem not_infix_of_find? (nothing : find? text = none)
    (isOpening : opening ∈ opener.openings) : ¬ opening <:+: text := by
  induction text with
  | nil => simpa using ne_nil_of_mem_openings isOpening
  | cons char rest ih =>
      rw [find?] at nothing
      split at nothing
      · contradiction
      · rename_i noOpener
        rw [List.infix_cons_iff, not_or]
        exact ⟨not_prefix_of_ofChars? noOpener isOpening, ih (by simpa using nothing)⟩

/-- Before the first opener there is none. -/
theorem find?_take {index size : Nat} (found : find? text = some (index, opener, size)) :
    find? (text.take index) = none := by
  induction text generalizing index with
  | nil => simp [find?] at found
  | cons char rest ih =>
      rw [find?] at found
      split at found
      · cases found
        rfl
      · rename_i noOpener
        obtain ⟨⟨later, _, _⟩, laterFound, laterEq⟩ := Option.map_eq_some_iff.1 found
        cases laterEq
        have shortened : ofChars? (char :: rest.take later) = none := by
          rw [Option.eq_none_iff_forall_not_mem]
          rintro ⟨other, length⟩ isOther
          obtain ⟨opening, isOpening, _, begins⟩ := ofChars?_eq_some_iff.1 isOther
          exact not_prefix_of_ofChars? noOpener isOpening
            (begins.trans ((List.prefix_cons_inj char).2 (List.take_prefix later rest)))
        simp [find?, shortened, ih laterFound]

end Opener

theorem closes_cons_iff {char : Char} {text : List Char} {depth next : Nat}
    (step : [char].count '}' + next = depth + [char].count '{') :
    Closes depth (char :: text) ↔ Closes next text := by
  have count (part : List Char) (brace : Char) :
      (char :: part).count brace = [char].count brace + part.count brace := by
    rw [← List.count_append, List.singleton_append]
  have textClosing := count text '}'
  have textOpening := count text '{'
  constructor
  · intro closes
    refine ⟨?_, by have := closes.all; omega⟩
    intro front back textEq
    have := closes.noOther (char :: front) back (by rw [textEq]; rfl)
    have := count front '}'
    have := count front '{'
    omega
  · intro closes
    refine ⟨?_, by have := closes.all; omega⟩
    intro front back textEq
    cases front with
    | nil => simp
    | cons first front =>
        obtain ⟨rfl, rfl⟩ := List.cons.inj textEq
        have := closes.noOther front back rfl
        have := count front '}'
        have := count front '{'
        omega

/-- The closing brace follows what closes all other braces. -/
theorem closingBrace?_eq_some_iff {depth index : Nat} {text : List Char} :
    closingBrace? depth text = some index ↔
      ∃ body rest, text = body ++ '}' :: rest ∧ body.length = index ∧ Closes depth body := by
  induction text generalizing depth index with
  | nil => simp [closingBrace?]
  | cons char text ih =>
      have onward {next : Nat} (step : [char].count '}' + next = depth + [char].count '{')
          (notLast : ¬ (char = '}' ∧ depth = 0)) :
          (closingBrace? next text).map (· + 1) = some index ↔
            ∃ body rest, char :: text = body ++ '}' :: rest ∧ body.length = index ∧
              Closes depth body := by
        rw [Option.map_eq_some_iff]
        constructor
        · rintro ⟨index, found, rfl⟩
          obtain ⟨body, rest, rfl, rfl, closes⟩ := ih.1 found
          exact ⟨char :: body, rest, rfl, rfl, (closes_cons_iff step).2 closes⟩
        · rintro ⟨body, rest, textEq, rfl, closes⟩
          cases body with
          | nil =>
              have all := closes.all
              obtain ⟨rfl, rfl⟩ := List.cons.inj textEq
              exact absurd ⟨rfl, by simpa using all.symm⟩ notLast
          | cons first body =>
              obtain ⟨rfl, rfl⟩ := List.cons.inj textEq
              exact ⟨body.length,
                ih.2 ⟨body, rest, rfl, rfl, (closes_cons_iff step).1 closes⟩, rfl⟩
      rw [closingBrace?.eq_def]
      simp only
      split
      · rename_i isOpening
        subst isOpening
        exact onward (by simp) (by simp)
      · rename_i notOpening
        split
        · rename_i isClosing
          subst isClosing
          split
          · constructor
            · intro found
              cases found
              exact ⟨[], text, rfl, rfl, ⟨by simp, rfl⟩⟩
            · rintro ⟨body, rest, textEq, rfl, closes⟩
              cases body with
              | nil => rfl
              | cons first body =>
                  -- a second closing brace would close too much
                  obtain ⟨rfl, _⟩ := List.cons.inj textEq
                  have := closes.noOther ['}'] body rfl
                  simp at this
          · exact onward (by simp; omega) (by simp)
        · rename_i notClosing
          exact onward (by simp [notOpening, notClosing]) (by simp [notClosing])

/-! ## Pieces, one step at a time -/

theorem Region.ne_nil {opener : Opener} {region : List Char} (isRegion : Region opener region) :
    region ≠ [] := by
  cases isRegion
  simp

section Steps

variable (start : Nat) {text rest : List Char}

theorem Fragment.drop_succ (char : Char) (rest : List Char) (count : Nat) :
    Fragment.drop ⟨start, char :: rest⟩ (count + 1) =
      Fragment.drop ⟨start + char.utf8Size, rest⟩ count := by
  simp [Fragment.drop, Nat.add_assoc]

/-- A character that begins no opener belongs to the first plain piece. -/
theorem pieces_past {char : Char} (noOpener : Opener.ofChars? (char :: rest) = none) :
    ∃ first later,
      pieces ⟨start + char.utf8Size, rest⟩ =
          .plain ⟨start + char.utf8Size, first⟩ :: later ∧
        pieces ⟨start, char :: rest⟩ = .plain ⟨start, char :: first⟩ :: later := by
  have found : Opener.find? (char :: rest) =
      (Opener.find? rest).map fun found => (found.1 + 1, found.2) := by
    rw [Opener.find?, noOpener]
  cases restFound : Opener.find? rest with
  | none =>
      rw [restFound] at found
      exact ⟨rest, [], pieces_of_plain restFound, pieces_of_plain found⟩
  | some place =>
      obtain ⟨index, opener, size⟩ := place
      rw [restFound] at found
      have innerEq : Fragment.drop ⟨start, char :: rest⟩ (index + 1 + size) =
          Fragment.drop ⟨start + char.utf8Size, rest⟩ (index + size) := by
        rw [Nat.add_right_comm, Fragment.drop_succ]
      cases closed : closingBrace? 0 (rest.drop (index + size)) with
      | none =>
          refine ⟨_, _, pieces_of_unclosed restFound closed, ?_⟩
          rw [pieces_of_unclosed found (by rw [innerEq]; exact closed), Fragment.drop_succ]
          rfl
      | some close =>
          refine ⟨_, _, pieces_of_closed restFound closed, ?_⟩
          rw [pieces_of_closed found (by rw [innerEq]; exact closed), innerEq]
          rfl

theorem Opener.find?_of_ofChars? {opener : Opener} {size : Nat}
    (isOpener : ofChars? text = some (opener, size)) : find? text = some (0, opener, size) := by
  cases text with
  | nil => cases isOpener
  | cons char rest => rw [find?, isOpener]

theorem pieces_across {opener : Opener} {region : List Char} (isRegion : Region opener region) :
    ∃ body : Fragment, body.stop ≤ start + byteSize region ∧
      pieces ⟨start, region ++ rest⟩ =
        .plain ⟨start, []⟩ :: .interpolation opener body ::
          pieces ⟨start + byteSize region, rest⟩ := by
  cases isRegion with
  | @intro opening body isOpening closes =>
      let prose : Fragment := ⟨start, opening ++ (body ++ ['}']) ++ rest⟩
      have found : Opener.find? prose.chars = some (0, opener, opening.length) :=
        Opener.find?_of_ofChars? (Opener.ofChars?_eq_some_iff.2
          ⟨opening, isOpening, rfl, _, (List.append_assoc _ _ _).symm⟩)
      have innerEq : prose.drop (0 + opening.length) =
          ⟨start + byteSize opening, body ++ '}' :: rest⟩ := by
        simp [prose, Fragment.drop]
      have closed : closingBrace? 0 (prose.drop (0 + opening.length)).chars =
          some body.length := by
        rw [innerEq]
        exact closingBrace?_eq_some_iff.2 ⟨body, rest, rfl, rfl, closes⟩
      have bodyEq : Fragment.take ⟨start + byteSize opening, body ++ '}' :: rest⟩ body.length =
          ⟨start + byteSize opening, body⟩ := by
        simp [Fragment.take]
      have restEq : Fragment.drop ⟨start + byteSize opening, body ++ '}' :: rest⟩
          (body.length + 1) = ⟨start + byteSize (opening ++ (body ++ ['}'])), rest⟩ := by
        simp [Fragment.drop, List.take_length_add_append, Nat.add_assoc]
      refine ⟨⟨start + byteSize opening, body⟩, ?_, ?_⟩
      · simp only [Fragment.stop, byteSize_append]
        omega
      · rw [pieces_of_closed found closed, innerEq, bodyEq, restEq]
        rfl

theorem pieces_stuck {opener : Opener} {size : Nat}
    (isOpener : Opener.ofChars? text = some (opener, size)) (noRegion : NoRegion text) :
    pieces ⟨start, text⟩ = [.plain ⟨start, []⟩, .unclosed ⟨start, text⟩] := by
  obtain ⟨opening, isOpening, rfl, after, rfl⟩ := Opener.ofChars?_eq_some_iff.1 isOpener
  have isOpen : closingBrace? 0
      (Fragment.drop ⟨start, opening ++ after⟩ (0 + opening.length)).chars = none := by
    rw [Option.eq_none_iff_forall_not_mem]
    intro index closed
    obtain ⟨body, rest, innerEq, _, closes⟩ := closingBrace?_eq_some_iff.1 closed
    have afterEq : after = body ++ '}' :: rest := by simpa [Fragment.drop] using innerEq
    exact noRegion opener _ (.intro isOpening closes) ⟨rest, by simp [afterEq]⟩
  rw [pieces_of_unclosed (Opener.find?_of_ofChars? isOpener) isOpen]
  simp [Fragment.take, Fragment.drop]

end Steps

/-! ## Plain pieces and regions -/

theorem Reached.append_eq {text before after : List Char} (reached : Reached text before after) :
    text = before ++ after := by
  induction reached with
  | start text => rfl
  | past _ _ ih => rw [ih, List.cons_append]
  | across _ _ ih => rw [ih, List.append_assoc]

theorem noRegion_of_ofChars? {text : List Char} (noOpener : Opener.ofChars? text = none) :
    NoRegion text := by
  rintro opener _ ⟨isOpening, _⟩ begins
  exact Opener.not_prefix_of_ofChars? noOpener isOpening
    ((List.prefix_append _ _).trans begins)

/-- The first character is outside all regions unless an opener begins there. -/
theorem outlying_nil {text : List Char} (noOpener : Opener.ofChars? text = none) :
    Outlying text [] := by
  constructor
  · rintro opener start region ⟨shape, after, reached⟩
    left
    apply List.length_pos_of_ne_nil
    rintro rfl
    exact noRegion_of_ofChars? noOpener opener region shape ⟨after, reached.append_eq.symm⟩
  · rintro start ⟨opener, opening, isOpening, after, reached, _⟩
    apply List.length_pos_of_ne_nil
    rintro rfl
    exact Opener.not_prefix_of_ofChars? noOpener isOpening ⟨after, reached.append_eq.symm⟩

theorem unclosed_of_opener {text : List Char} {found : Opener × Nat}
    (isOpener : Opener.ofChars? text = some found) (noRegion : NoRegion text) :
    Unclosed text [] := by
  obtain ⟨opener, size⟩ := found
  obtain ⟨opening, isOpening, _, after, rfl⟩ := Opener.ofChars?_eq_some_iff.1 isOpener
  exact ⟨opener, opening, isOpening, after, .start _, noRegion⟩

section Passing

variable {char : Char} {opener kind : Opener} {region rest before other : List Char}

theorem RegionAt.past (noRegion : NoRegion (char :: rest))
    (isRegion : RegionAt rest before region opener) :
    RegionAt (char :: rest) (char :: before) region opener := by
  obtain ⟨shape, after, reached⟩ := isRegion
  exact ⟨shape, after, .past noRegion reached⟩

theorem RegionAt.across (isFirst : Region kind other)
    (isRegion : RegionAt rest before region opener) :
    RegionAt (other ++ rest) (other ++ before) region opener := by
  obtain ⟨shape, after, reached⟩ := isRegion
  exact ⟨shape, after, .across isFirst reached⟩

theorem Unclosed.past (noRegion : NoRegion (char :: rest)) (unclosed : Unclosed rest before) :
    Unclosed (char :: rest) (char :: before) := by
  obtain ⟨opener, opening, isOpening, after, reached, isOpen⟩ := unclosed
  exact ⟨opener, opening, isOpening, after, .past noRegion reached, isOpen⟩

theorem Unclosed.across (isRegion : Region opener region) (unclosed : Unclosed rest before) :
    Unclosed (region ++ rest) (region ++ before) := by
  obtain ⟨opener, opening, isOpening, after, reached, isOpen⟩ := unclosed
  exact ⟨opener, opening, isOpening, after, .across isRegion reached, isOpen⟩

end Passing

/-- A place that no region covers is reached. -/
theorem reached_or_covered (before after : List Char) (char : Char) :
    (Reached (before ++ char :: after) before (char :: after) ∧ NoRegion (char :: after)) ∨
      ∃ opener start region, RegionAt (before ++ char :: after) start region opener ∧
        start.length ≤ before.length ∧ before.length < start.length + region.length := by
  -- a whole region may be passed in one step, so the length goes down by more than one
  induction lengthEq : before.length using Nat.strongRecOn generalizing before with
  | ind length ih =>
      subst lengthEq
      by_cases noRegion : NoRegion (before ++ char :: after)
      · cases before with
        | nil => exact .inl ⟨.start _, noRegion⟩
        | cons first before =>
            rcases ih before.length (by simp) before rfl with
              ⟨reached, isPlain⟩ | ⟨opener, start, region, isRegion, startLe, ltStop⟩
            · exact .inl ⟨.past noRegion reached, isPlain⟩
            · refine .inr ⟨opener, first :: start, region, isRegion.past noRegion, ?_, ?_⟩
              · simpa using startLe
              · simp only [List.length_cons]
                omega
      · simp only [NoRegion, not_forall, not_not] at noRegion
        obtain ⟨opener, region, isRegion, begins⟩ := noRegion
        by_cases isInside : before.length < region.length
        · obtain ⟨rest, textEq⟩ := begins
          exact .inr ⟨opener, [], region, ⟨isRegion, rest, textEq ▸ .start _⟩, by simp,
            by simpa using isInside⟩
        · -- the whole region is before the place
          obtain ⟨rest, rfl⟩ := List.prefix_of_prefix_length_le begins
            (List.prefix_append before (char :: after)) (by omega)
          have shorter : rest.length < (region ++ rest).length := by
            have := List.length_pos_of_ne_nil isRegion.ne_nil
            simp only [List.length_append]
            omega
          rw [List.append_assoc]
          rcases ih rest.length shorter rest rfl with
            ⟨reached, isPlain⟩ | ⟨kind, start, other, isOther, startLe, ltStop⟩
          · exact .inl ⟨.across isRegion reached, isPlain⟩
          · refine .inr ⟨kind, region ++ start, other, isOther.across isRegion, ?_, ?_⟩
            · simpa using startLe
            · simp only [List.length_append]
              omega

/-- What is outside all regions, and not behind an opener that is left open, is plain. -/
theorem exists_plain_of_reached (start : Nat) {text before after : List Char} {char : Char}
    (reached : Reached text before (char :: after)) (noRegion : NoRegion (char :: after))
    (beforeUnclosed : ∀ front, Unclosed text front → before.length < front.length) :
    ∃ part : Fragment, .plain part ∈ pieces ⟨start, text⟩ ∧ char ∈ part.chars ∧
      part.span.Covers (.ofSize (start + byteSize before) char.utf8Size) := by
  generalize afterEq : char :: after = remaining at reached noRegion
  induction reached generalizing start with
  | start text =>
      subst afterEq
      cases isOpener : Opener.ofChars? (char :: after) with
      | some found =>
          exact absurd (beforeUnclosed [] (unclosed_of_opener isOpener noRegion)) (by simp)
      | none =>
          obtain ⟨first, later, _, cut⟩ := pieces_past start isOpener
          refine ⟨⟨start, char :: first⟩, by simp [cut], List.mem_cons_self, ?_⟩
          simp [Span.Covers, Span.ofSize, Fragment.span, Fragment.stop]
  | @past head rest before remaining noRegionHere reached ih =>
      cases isOpener : Opener.ofChars? (head :: rest) with
      | some found =>
          exact absurd (beforeUnclosed [] (unclosed_of_opener isOpener noRegionHere)) (by simp)
      | none =>
          have unclosedBehind (front : List Char) (unclosed : Unclosed rest front) :
              before.length < front.length := by
            simpa using beforeUnclosed _ (unclosed.past noRegionHere)
          obtain ⟨part, isPiece, inPart, covers⟩ :=
            ih (start + head.utf8Size) unclosedBehind afterEq noRegion
          obtain ⟨first, later, restCut, cut⟩ := pieces_past start isOpener
          simp only [Span.Covers, Span.ofSize, Fragment.span, Fragment.stop, byteSize_cons]
            at covers ⊢
          rw [restCut] at isPiece
          rcases List.mem_cons.1 isPiece with isFirst | isLater
          · cases isFirst
            refine ⟨⟨start, head :: first⟩, by simp [cut], List.mem_cons_of_mem _ inPart, ?_⟩
            simp only [byteSize_cons] at covers ⊢
            omega
          · refine ⟨part, by simp [cut, isLater], inPart, ?_⟩
            omega
  | @across opener region rest before remaining isRegion reached ih =>
      have unclosedBehind (front : List Char) (unclosed : Unclosed rest front) :
          before.length < front.length := by
        simpa using beforeUnclosed _ (unclosed.across isRegion)
      obtain ⟨part, isPiece, inPart, covers⟩ :=
        ih (start + byteSize region) unclosedBehind afterEq noRegion
      obtain ⟨body, _, cut⟩ := @pieces_across start rest opener region isRegion
      refine ⟨part, by simp [cut, isPiece], inPart, ?_⟩
      rwa [byteSize_append, ← Nat.add_assoc]

/-- A piece keeps off a region, or is cut out of it, or is all behind an opener that is
left open. -/
theorem piece_of_region (start : Nat) {text before region : List Char} {opener : Opener}
    (isRegion : RegionAt text before region opener) {piece : Piece}
    (isPiece : piece ∈ pieces ⟨start, text⟩) :
    piece.place.stop ≤ start + byteSize before ∨
      start + byteSize before + byteSize region ≤ piece.place.start ∨
      (∃ body, piece = .interpolation opener body) ∨ ∃ rest, piece = .unclosed rest := by
  obtain ⟨shape, after, reached⟩ := isRegion
  have regionSize := byteSize_pos shape.ne_nil
  generalize afterEq : region ++ after = remaining at reached
  induction reached generalizing start piece with
  | start text =>
      subst afterEq
      obtain ⟨body, _, cut⟩ := @pieces_across start after opener region shape
      rw [cut] at isPiece
      rcases List.mem_cons.1 isPiece with rfl | isLater
      · exact .inl (by simp [Piece.place, Fragment.stop])
      · rcases List.mem_cons.1 isLater with rfl | inRest
        · exact .inr (.inr (.inl ⟨body, rfl⟩))
        · exact .inr (.inl (place_within inRest).bounds.1)
  | @past head rest before remaining noRegion reached ih =>
      cases isOpener : Opener.ofChars? (head :: rest) with
      | some found =>
          rw [pieces_stuck start isOpener noRegion] at isPiece
          rcases List.mem_cons.1 isPiece with rfl | isUnclosed
          · exact .inl (by simp [Piece.place, Fragment.stop])
          · exact .inr (.inr (.inr ⟨_, List.mem_singleton.1 isUnclosed⟩))
      | none =>
          obtain ⟨first, later, restCut, cut⟩ := pieces_past start isOpener
          rw [cut] at isPiece
          rw [byteSize_cons, ← Nat.add_assoc]
          rcases List.mem_cons.1 isPiece with rfl | isLater
          · left
            have := ih (start + head.utf8Size) (by rw [restCut]; exact List.mem_cons_self) afterEq
            simp only [Piece.place, Fragment.stop, byteSize_cons, reduceCtorEq, exists_false,
              or_false] at this ⊢
            omega
          · exact ih _ (by rw [restCut]; exact List.mem_cons_of_mem _ isLater) afterEq
  | @across kind other rest before remaining isFirst reached ih =>
      obtain ⟨body, bodyStop, cut⟩ := @pieces_across start rest kind other isFirst
      rw [cut] at isPiece
      rw [byteSize_append, ← Nat.add_assoc]
      rcases List.mem_cons.1 isPiece with rfl | isLater
      · exact .inl (by simp [Piece.place, Fragment.stop, Nat.add_assoc])
      · rcases List.mem_cons.1 isLater with rfl | inRest
        · exact .inl (Nat.le_trans bodyStop (Nat.le_add_right _ _))
        · exact ih _ inRest afterEq

theorem openerFree_of_plain {prose part : Fragment} (isPiece : .plain part ∈ pieces prose) :
    OpenerFree part.chars := by
  intro opener opening isOpening
  fun_induction pieces prose with
  | case1 prose nothing =>
      obtain rfl : part = prose := by simpa using isPiece
      exact Opener.not_infix_of_find? nothing isOpening
  | case2 prose index kind size found inner isOpen =>
      obtain rfl : part = prose.take index := by simpa using isPiece
      exact Opener.not_infix_of_find? (Opener.find?_take found) isOpening
  | case3 prose index kind size found inner close closed ih =>
      rcases List.mem_cons.1 isPiece with isFirst | isLater
      · obtain rfl : part = prose.take index := by simpa using isFirst
        exact Opener.not_infix_of_find? (Opener.find?_take found) isOpening
      · exact ih (by simpa using isLater)

end Gamebook
