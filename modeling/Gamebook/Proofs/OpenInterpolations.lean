import Gamebook.Editor.Completion
import Gamebook.Proofs.ProseRegions
import Gamebook.Proofs.TrimmedText

/-!
# Interpolations that are being typed

Prose is read forwards: an interpolation begins where a text starts with an opener.
Completion looks backwards from the place where a name is typed, past blanks and for the
end of an opener.  What it finds is an opener of prose with nothing but blanks behind it,
and it finds all openers but one: behind `$!!{` it takes no interpolation to be open.
-/

namespace Gamebook

namespace Opener

variable {opener : Opener} {opening : List Char}

/-- The openers that are accepted as a whole. -/
theorem ofChars?_eq_some_length_iff :
    ofChars? opening = some (opener, opening.length) ↔ opening ∈ opener.openings := by
  rw [ofChars?_eq_some_iff]
  constructor
  · rintro ⟨other, isOpening, sizeEq, begins⟩
    rwa [begins.eq_of_length sizeEq] at isOpening
  · intro isOpening
    exact ⟨opening, isOpening, rfl, List.prefix_rfl⟩

/-- The openers that completion looks for. -/
def sought : List (List Char) :=
  [['$', '{'], ['$', '!', '{'], ['@', '{']]

/-- The opener that it does not look for. -/
def doubled : List Char :=
  ['$', '!', '!', '{']

theorem mem_sought_iff :
    opening ∈ sought ↔ ∃ opener : Opener, opening ∈ opener.openings ∧ opening ≠ doubled := by
  constructor
  · intro isSought
    simp only [sought, List.mem_cons, List.not_mem_nil, or_false] at isSought
    rcases isSought with rfl | rfl | rfl
    · exact ⟨.value, by decide⟩
    · exact ⟨.value, by decide⟩
    · exact ⟨.choice, by decide⟩
  · rintro ⟨opener, isOpening, notDoubled⟩
    cases opener with
    | value =>
        simp only [openings, List.mem_cons, List.not_mem_nil, or_false] at isOpening
        rcases isOpening with rfl | rfl | rfl
        · decide
        · decide
        · exact absurd rfl notDoubled
    | choice =>
        obtain rfl := List.mem_singleton.1 isOpening
        decide

/-- An opener ends with a brace, so that trimming a text stops at it. -/
theorem trimEndChars_append_opening (isOpening : opening ∈ opener.openings)
    (before : List Char) : trimEndChars isBlank (before ++ opening) = before ++ opening := by
  have ends : ∃ front, opening = front ++ ['{'] := by
    cases opener with
    | value =>
        simp only [openings, List.mem_cons, List.not_mem_nil, or_false] at isOpening
        rcases isOpening with rfl | rfl | rfl
        · exact ⟨['$'], rfl⟩
        · exact ⟨['$', '!'], rfl⟩
        · exact ⟨['$', '!', '!'], rfl⟩
    | choice =>
        obtain rfl := List.mem_singleton.1 isOpening
        exact ⟨['@'], rfl⟩
  obtain ⟨front, rfl⟩ := ends
  rw [← List.append_assoc]
  exact trimEndChars_concat _ (by decide)

end Opener

variable {text : List Char}

/-- The openers are looked for from the end of the trimmed text. -/
theorem inInterpolation_iff_trimmed :
    inInterpolation text = true ↔
      ∃ before, ∃ opening ∈ Opener.sought, trimEndChars isBlank text = before ++ opening := by
  constructor
  · intro inside
    unfold inInterpolation at inside
    split at inside
    · rename_i front reversed
      exact ⟨front.reverse, ['$', '{'], by decide, by simpa using congrArg List.reverse reversed⟩
    · rename_i front reversed
      exact ⟨front.reverse, ['$', '!', '{'], by decide,
        by simpa using congrArg List.reverse reversed⟩
    · rename_i front reversed
      exact ⟨front.reverse, ['@', '{'], by decide, by simpa using congrArg List.reverse reversed⟩
    · contradiction
  · rintro ⟨before, opening, isSought, trimmed⟩
    simp only [Opener.sought, List.mem_cons, List.not_mem_nil, or_false] at isSought
    rcases isSought with rfl | rfl | rfl <;> simp [inInterpolation, trimmed]

/-- Completion takes a text to end inside an interpolation exactly if the text ends with an
opener of prose, but for the one it does not look for, and blanks. -/
theorem inInterpolation_iff_opener :
    inInterpolation text = true ↔
      ∃ before opening blanks opener, text = before ++ opening ++ blanks ∧
        Opener.ofChars? opening = some (opener, opening.length) ∧ opening ≠ Opener.doubled ∧
        ∀ char ∈ blanks, isBlank char = true := by
  simp only [inInterpolation_iff_trimmed, Opener.mem_sought_iff,
    Opener.ofChars?_eq_some_length_iff]
  constructor
  · rintro ⟨before, opening, ⟨opener, isOpening, notDoubled⟩, trimmed⟩
    obtain ⟨blanks, textEq, areBlank⟩ := exists_dropped_ending isBlank text
    rw [trimmed] at textEq
    exact ⟨before, opening, blanks, opener, textEq.symm, isOpening, notDoubled, areBlank⟩
  · rintro ⟨before, opening, blanks, opener, rfl, isOpening, notDoubled, areBlank⟩
    refine ⟨before, opening, ⟨opener, isOpening, notDoubled⟩, ?_⟩
    rw [trimEndChars_append_of_all _ areBlank, Opener.trimEndChars_append_opening isOpening]

theorem inInterpolation_doubled (before : List Char) {blanks : List Char}
    (areBlank : ∀ char ∈ blanks, isBlank char = true) :
    inInterpolation (before ++ Opener.doubled ++ blanks) = false := by
  have trimmed : trimEndChars isBlank (before ++ Opener.doubled ++ blanks) =
      before ++ Opener.doubled := by
    rw [trimEndChars_append_of_all _ areBlank,
      Opener.trimEndChars_append_opening (by decide : Opener.doubled ∈ Opener.value.openings)]
  rw [inInterpolation, trimmed, List.reverse_append]
  rfl

namespace CompletionContext

/-- Behind an opener of prose and blanks variables are offered, whatever stands before,
unless the opener is `$!!{`: that one is not taken for an opener.  Nothing else is. -/
theorem detect_behind_opener (text : List Char) :
    (inInterpolation text = true ↔
      ∃ before opening blanks opener, text = before ++ opening ++ blanks ∧
        Opener.ofChars? opening = some (opener, opening.length) ∧ opening ≠ Opener.doubled ∧
        ∀ char ∈ blanks, isBlank char = true) ∧
    ∀ before opening blanks opener, text = before ++ opening ++ blanks →
      Opener.ofChars? opening = some (opener, opening.length) →
      (∀ char ∈ blanks, isBlank char = true) →
        (opening ≠ Opener.doubled → detect text = .var) ∧
          (opening = Opener.doubled → inInterpolation text = false) := by
  refine ⟨inInterpolation_iff_opener, ?_⟩
  intro before opening blanks opener textEq accepted areBlank
  constructor
  · intro notDoubled
    have inside := inInterpolation_iff_opener.2
      ⟨before, opening, blanks, opener, textEq, accepted, notDoubled, areBlank⟩
    rw [detect, if_pos inside]
  · rintro rfl
    rw [textEq]
    exact inInterpolation_doubled before areBlank

/-- Behind a command, a closed interpolation and one that is open, with two blanks of which
one is wide. -/
theorem detect_behind_opener_of_jump :
    let before := "*goto ${a} @\x7bb ".toList
    let opening := "$!\x7b".toList
    let blanks := " \u3000".toList
    Opener.ofChars? opening = some (.value, opening.length) ∧ opening ≠ Opener.doubled ∧
      (∀ char ∈ blanks, isBlank char = true) ∧ detect (before ++ opening ++ blanks) = .var ∧
      inInterpolation (before ++ Opener.doubled ++ blanks) = false := by
  intro before opening blanks
  have areBlank : ∀ char ∈ blanks, isBlank char = true := List.all_eq_true.1 (by decide)
  have notDoubled : opening ≠ Opener.doubled := by decide
  obtain ⟨offered, _⟩ :=
    (detect_behind_opener _).2 before opening blanks .value rfl rfl areBlank
  obtain ⟨_, missed⟩ :=
    (detect_behind_opener _).2 before Opener.doubled blanks .value rfl rfl areBlank
  exact ⟨rfl, notDoubled, areBlank, offered notDoubled, missed rfl⟩

/-- An opener of prose behind which nothing is offered. -/
theorem detect_behind_doubled_opener :
    Opener.ofChars? "$!!\x7b".toList = some (.value, 4) ∧
      detect "You have $!!\x7b".toList = .unknown := by
  decide

end CompletionContext

end Gamebook
