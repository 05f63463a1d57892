import Gamebook.Proofs.DictionaryRanks
import Gamebook.Proofs.SceneFiles
import Gamebook.Proofs.WordPlaces

/-!
# Two ways to lower case

Words are compared in a form that is made character by character.  The user's dictionary
lower-cases a text as a whole instead, so that a capital sigma at the end of a word becomes
the final one, and it leaves curly apostrophes as they are.  Whichever way is taken, what
comes out does not change any more, and blanks stay where they are.  The two ways give the
same unless one of these two characters is in the text.
-/

namespace Gamebook

/-! ## Blanks at the ends of a text -/

def HasBareEnds (text : List Char) : Prop :=
  (∀ char ∈ text.head?, isBlank char = false) ∧ ∀ char ∈ text.getLast?, isBlank char = false

theorem hasBareEnds_trimChars (text : List Char) : HasBareEnds (trimChars text) := by
  refine ⟨?_, last_trimEndChars _⟩
  intro char isHead
  obtain ⟨ending, endingEq⟩ := trimEndChars_append isBlank (text.dropWhile isBlank)
  have headEq : (text.dropWhile isBlank).head? = some char := by
    rw [← endingEq, List.head?_append, show (trimEndChars isBlank _).head? = some char from isHead]
    rfl
  have kept := List.head?_dropWhile_not isBlank text
  rw [headEq] at kept
  exact kept

theorem trimChars_eq_self {text : List Char} (bareEnds : HasBareEnds text) :
    trimChars text = text := by
  obtain ⟨headBare, lastBare⟩ := bareEnds
  have noneDropped : text.dropWhile isBlank = text := by
    cases text with
    | nil => rfl
    | cons first rest => simp [headBare first rfl]
  rw [trimChars, noneDropped]
  rcases List.eq_nil_or_concat' text with rfl | ⟨init, last, rfl⟩
  · rfl
  · exact trimEndChars_concat init (lastBare last (by simp))

theorem trimChars_sublist (text : List Char) : (trimChars text).Sublist text := by
  obtain ⟨ending, endingEq⟩ := trimEndChars_append isBlank (text.dropWhile isBlank)
  calc
    (trimChars text).Sublist (trimChars text ++ ending) := List.sublist_append_left _ _
    _ = text.dropWhile isBlank := endingEq
    List.Sublist _ text := List.dropWhile_sublist isBlank

/-! ## Texts in lower case -/

/-- `Lowers char piece`: the piece may stand for the character in a text in lower case. -/
structure Lowers (char : Char) (piece : List Char) : Prop where
  notEmpty : piece ≠ []
  settled : ∀ lower ∈ piece, lowerChars lower = [lower]
  blank : ∀ lower ∈ piece, isBlank lower = true → lower = char
  keepsBlank : isBlank char = true → char ∈ piece

/-- A text in which a piece stands for each character of another. -/
inductive Lowered : List Char → List Char → Prop where
  | nil : Lowered [] []
  | cons {char : Char} {piece text lowered : List Char} :
      Lowers char piece → Lowered text lowered → Lowered (char :: text) (piece ++ lowered)

theorem lowerChars_of_isBlank {char : Char} (blank : isBlank char = true) :
    lowerChars char = [char] := by
  have atCodes : ∀ code ∈ blankCodes,
      lowerChars (Char.ofNat code) = [Char.ofNat code] := by
    decide +kernel
  simpa using atCodes char.toNat (mem_blankCodes_of_isBlank blank)

theorem lowers_lowerChars (char : Char) : Lowers char (lowerChars char) where
  notEmpty := by
    unfold lowerChars
    split
    · simp
    · split <;> simp
  settled := by
    intro lower isLower
    by_cases isCurly : char = '’'
    · have lowerCurly : lowerChars '’' = ['’'] := by decide +kernel
      rw [isCurly, lowerCurly, List.mem_singleton] at isLower
      rw [isLower, lowerCurly]
    · exact (isSettled_of_mem_lowerChars isCurly isLower).2
  blank := by
    intro lower isLower lowerBlank
    have blank := isBlank_of_mem_lowerChars isLower lowerBlank
    rwa [lowerChars_of_isBlank blank, List.mem_singleton] at isLower
  keepsBlank := mem_lowerChars_of_isBlank

/-- A character of a piece that is no blank may stand for any other that is none. -/
theorem Lowers.swap {char other : Char} {piece : List Char} (lowers : Lowers char piece)
    (notBlank : isBlank char = false) (otherNotBlank : isBlank other = false) :
    Lowers other piece where
  notEmpty := lowers.notEmpty
  settled := lowers.settled
  blank := by
    intro lower isLower lowerBlank
    rw [lowers.blank lower isLower lowerBlank, notBlank] at lowerBlank
    cases lowerBlank
  keepsBlank := by
    intro blank
    rw [otherNotBlank] at blank
    cases blank

theorem lowered_lowerTextFrom (before text : List Char) :
    Lowered text (lowerTextFrom before text) := by
  induction text generalizing before with
  | nil => exact .nil
  | cons char rest ih =>
      refine .cons ?_ (ih (char :: before))
      split
      · rename_i isSigma
        rw [isSigma]
        split
        · exact (lowers_lowerChars 'ς').swap (by decide) (by decide)
        · exact (lowers_lowerChars 'σ').swap (by decide) (by decide)
      · exact lowers_lowerChars char

theorem lowered_lowerText (word : String) : Lowered word.toList (lowerText word).toList := by
  rw [lowerText, String.toList_ofList]
  exact lowered_lowerTextFrom [] word.toList

theorem lowered_normalize (word : String) : Lowered word.toList (normalize word).toList := by
  rw [normalize, String.toList_ofList]
  induction word.toList with
  | nil => exact .nil
  | cons char rest ih =>
      refine .cons ?_ ih
      show Lowers char (lowerChars (if char = '’' then '\'' else char))
      split
      · rename_i isCurly
        rw [isCurly]
        exact (lowers_lowerChars '\'').swap (by decide) (by decide)
      · exact lowers_lowerChars char

namespace Lowered

variable {text lowered : List Char}

theorem settled (isLowered : Lowered text lowered) :
    ∀ lower ∈ lowered, lowerChars lower = [lower] := by
  induction isLowered with
  | nil => simp
  | cons lowers _ ih =>
      intro lower isLower
      rcases List.mem_append.1 isLower with inPiece | inRest
      · exact lowers.settled lower inPiece
      · exact ih lower inRest

theorem eq_nil_iff (isLowered : Lowered text lowered) : lowered = [] ↔ text = [] := by
  cases isLowered with
  | nil => simp
  | cons lowers _ => simp [lowers.notEmpty]

theorem mem_iff_of_isBlank (isLowered : Lowered text lowered) {char : Char}
    (blank : isBlank char = true) : char ∈ lowered ↔ char ∈ text := by
  induction isLowered with
  | nil => simp
  | cons lowers _ ih =>
      rw [List.mem_append, List.mem_cons, ih]
      refine or_congr ⟨fun inPiece => lowers.blank char inPiece blank, ?_⟩ Iff.rfl
      rintro rfl
      exact lowers.keepsBlank blank

theorem head_of_isBlank (isLowered : Lowered text lowered) :
    ∀ char ∈ lowered.head?, isBlank char = true → char ∈ text.head? := by
  cases isLowered with
  | nil => simp
  | @cons first piece text lowered lowers _ =>
      intro char isHead blank
      have inPiece : char ∈ piece := by
        cases piece with
        | nil => exact absurd rfl lowers.notEmpty
        | cons lower rest =>
            obtain rfl : lower = char := by simpa using isHead
            exact List.mem_cons_self
      rw [lowers.blank char inPiece blank]
      rfl

theorem last_of_isBlank (isLowered : Lowered text lowered) :
    ∀ char ∈ lowered.getLast?, isBlank char = true → char ∈ text.getLast? := by
  induction isLowered with
  | nil => simp
  | @cons first piece text lowered lowers restLowered ih =>
      intro char isLast blank
      rw [List.getLast?_append] at isLast
      cases lastEq : lowered.getLast? with
      | none =>
          -- nothing follows, so the blank stands for the first character itself
          rw [lastEq, Option.none_or] at isLast
          rw [restLowered.eq_nil_iff.1 (List.getLast?_eq_none_iff.1 lastEq),
            lowers.blank char (List.mem_of_getLast? isLast) blank]
          rfl
      | some last =>
          rw [lastEq, Option.some_or] at isLast
          have isLater : char ∈ text.getLast? := ih char (by rw [lastEq]; exact isLast) blank
          rw [List.getLast?_cons, show text.getLast? = some char from isLater]
          rfl

theorem hasBareEnds (isLowered : Lowered text lowered) (bareEnds : HasBareEnds text) :
    HasBareEnds lowered := by
  constructor
  · intro char isHead
    rw [Bool.eq_false_iff]
    intro blank
    simpa [blank] using bareEnds.1 char (isLowered.head_of_isBlank char isHead blank)
  · intro char isLast
    rw [Bool.eq_false_iff]
    intro blank
    simpa [blank] using bareEnds.2 char (isLowered.last_of_isBlank char isLast blank)

end Lowered

theorem lowerTextFrom_eq_self {before text : List Char}
    (settled : ∀ char ∈ text, lowerChars char = [char]) : lowerTextFrom before text = text := by
  induction text generalizing before with
  | nil => rfl
  | cons char rest ih =>
      obtain ⟨charSettled, restSettled⟩ := List.forall_mem_cons.1 settled
      have notSigma : char ≠ 'Σ' := by
        rintro rfl
        exact absurd charSettled (by decide +kernel)
      rw [lowerTextFrom, ih restSettled]
      simp [notSigma, charSettled]

theorem lowerText_lowerText (text : String) : lowerText (lowerText text) = lowerText text := by
  rw [lowerText, lowerTextFrom_eq_self (lowered_lowerText text).settled, String.ofList_toList]

/-- The form in which words are compared is in lower case also as a whole. -/
theorem lowerText_normalize (word : String) : lowerText (normalize word) = normalize word := by
  rw [lowerText, lowerTextFrom_eq_self (lowered_normalize word).settled, String.ofList_toList]

/-! ## Where the two ways differ -/

/-- A capital sigma behind a letter is the last letter of its word.  What stands before the text
is given backwards. -/
def EndsInSigma (seen text : List Char) : Prop :=
  ∃ before after, text = before ++ 'Σ' :: after ∧
    reachesCased (before.reverse ++ seen) = true ∧ reachesCased after = false

theorem endsInSigma_cons_iff {seen rest : List Char} {char : Char} :
    EndsInSigma seen (char :: rest) ↔
      (char = 'Σ' ∧ reachesCased seen = true ∧ reachesCased rest = false) ∨
        EndsInSigma (char :: seen) rest := by
  constructor
  · rintro ⟨before, after, textEq, isBehind, isLast⟩
    cases before with
    | nil =>
        obtain ⟨rfl, rfl⟩ := List.cons.inj textEq
        exact .inl ⟨rfl, isBehind, isLast⟩
    | cons first before =>
        obtain ⟨rfl, rfl⟩ := List.cons.inj textEq
        exact .inr ⟨before, after, rfl, by simpa using isBehind, isLast⟩
  · rintro (⟨rfl, isBehind, isLast⟩ | ⟨before, after, rfl, isBehind, isLast⟩)
    · exact ⟨[], rest, rfl, isBehind, isLast⟩
    · exact ⟨char :: before, after, rfl, by simpa using isBehind, isLast⟩

/-- The piece that stands for one character is of the same length either way, so that the texts
can be compared piece by piece. -/
theorem lowerTextFrom_eq_iff {seen text : List Char} :
    lowerTextFrom seen text =
        (text.flatMap fun char => lowerChars (if char = '’' then '\'' else char)) ↔
      '’' ∉ text ∧ ¬ EndsInSigma seen text := by
  induction text generalizing seen with
  | nil => simp [lowerTextFrom, EndsInSigma]
  | cons char rest ih =>
      have lowerSigma : lowerChars 'Σ' = ['σ'] := by decide +kernel
      have lowerStraight : lowerChars '\'' = ['\''] := by decide +kernel
      have lowerCurly : lowerChars '’' = ['’'] := by decide +kernel
      rw [lowerTextFrom, List.flatMap_cons, List.mem_cons, endsInSigma_cons_iff, not_or, not_or]
      by_cases isSigma : char = 'Σ'
      · subst isSigma
        by_cases isFinal : reachesCased seen = true ∧ reachesCased rest = false
        · simp [isFinal, lowerSigma]
        · have notFinal : (reachesCased seen && !reachesCased rest) = false := by
            simpa using isFinal
          simp [notFinal, isFinal, lowerSigma, ih]
      · by_cases isCurly : char = '’'
        · subst isCurly
          simp [lowerCurly, lowerStraight]
        · simp [isSigma, isCurly, Ne.symm isCurly, ih]

theorem lowerText_eq_normalize_iff {word : String} :
    lowerText word = normalize word ↔ '’' ∉ word.toList ∧ ¬ EndsInSigma [] word.toList := by
  rw [lowerText, normalize, String.ofList_inj, lowerTextFrom_eq_iff]

end Gamebook
