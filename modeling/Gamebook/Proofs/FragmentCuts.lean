import Gamebook.Script.Scene

/-!
# The parts of a cut fragment

Every reading of a line cuts fragments: at a blank, at a border character, at a
number of characters.  This file says how the parts of one cut lie to each
other.  `Fragment.Before` is the order that matters later: behind the first
part stands at least one character before anything of the second part begins.
An empty second part has nothing that could begin.
-/

namespace Gamebook

theorem byteSize_pos {text : List Char} (notEmpty : text ≠ []) :
    0 < byteSize text := by
  have := mt byteSize_eq_zero.1 notEmpty
  omega

theorem byteSize_take_lt {text : List Char} {count more : Nat}
    (isLess : count < more) (inside : count < text.length) :
    byteSize (text.take count) < byteSize (text.take more) := by
  have cut : text.take more =
      text.take count ++ (text.take more).drop count := by
    have rejoined := List.take_append_drop count (text.take more)
    rw [List.take_take, Nat.min_eq_left (Nat.le_of_lt isLess)] at rejoined
    exact rejoined.symm
  have rest : (text.take more).drop count ≠ [] := by
    intro isNil
    have := congrArg List.length isNil
    simp only [List.length_drop, List.length_take, List.length_nil] at this
    omega
  have := byteSize_pos rest
  rw [cut, byteSize_append]
  omega

theorem head_of_dropWhile_eq_cons {discard : Char → Bool} {text rest : List Char}
    {char : Char} (dropEq : text.dropWhile discard = char :: rest) :
    discard char = false := by
  have := List.head?_dropWhile_not discard text
  simpa [dropEq] using this

section LaterStops

variable {Item : Type} {passes : Item → Bool} {later : List Item}

theorem takeWhile_append_of_head? (stops : ∀ item ∈ later.head?, passes item = false)
    (front : List Item) : (front ++ later).takeWhile passes = front.takeWhile passes := by
  induction front with
  | nil =>
      cases later with
      | nil => rfl
      | cons item rest => exact List.takeWhile_cons_of_neg (by simp [stops item rfl])
  | cons item front ih => rw [List.cons_append, List.takeWhile_cons, List.takeWhile_cons, ih]

theorem dropWhile_append_of_head? (stops : ∀ item ∈ later.head?, passes item = false)
    (front : List Item) :
    (front ++ later).dropWhile passes = front.dropWhile passes ++ later := by
  induction front with
  | nil =>
      cases later with
      | nil => rfl
      | cons item rest => exact List.dropWhile_cons_of_neg (by simp [stops item rfl])
  | cons item front ih =>
      rw [List.cons_append, List.dropWhile_cons, List.dropWhile_cons, ih]
      split <;> rfl

end LaterStops

namespace Fragment

/-- Nothing of `second` begins right behind `first`. -/
def Before (first second : Fragment) : Prop :=
  second.chars ≠ [] → first.stop < second.start

theorem Before.mono {first second left right : Fragment}
    (before : first.Before second) (leftWithin : left.Within first)
    (rightWithin : right.Within second) : left.Before right := by
  intro rightNotEmpty
  have secondNotEmpty : second.chars ≠ [] := by
    obtain ⟨_, _, charsEq, _⟩ := rightWithin
    simp [charsEq, rightNotEmpty]
  have gap := before secondNotEmpty
  have leftBounds := leftWithin.bounds
  have rightBounds := rightWithin.bounds
  omega

theorem Within.notEmpty {part whole : Fragment} (within : part.Within whole)
    (partNotEmpty : part.chars ≠ []) : whole.chars ≠ [] := by
  obtain ⟨_, _, charsEq, _⟩ := within
  simp [charsEq, partNotEmpty]

theorem Within.mem {part whole : Fragment} (within : part.Within whole)
    {char : Char} (inPart : char ∈ part.chars) : char ∈ whole.chars := by
  obtain ⟨_, _, charsEq, _⟩ := within
  simp [charsEq, inPart]

theorem start_le_stop (fragment : Fragment) : fragment.start ≤ fragment.stop :=
  Nat.le_add_right _ _

theorem start_lt_stop {fragment : Fragment} (notEmpty : fragment.chars ≠ []) :
    fragment.start < fragment.stop := by
  have := byteSize_pos notEmpty
  simp only [stop]
  omega

/-- Everything from a part to the end of the whole is a part again. -/
theorem Within.toEnd {part whole : Fragment} (within : part.Within whole) :
    ∃ tail : Fragment, tail.Within whole ∧
      tail.span = ⟨part.start, whole.stop⟩ := by
  obtain ⟨before, after, charsEq, startEq⟩ := within
  refine ⟨⟨part.start, part.chars ++ after⟩, ⟨before, [], ?_, startEq⟩, ?_⟩
  · simp [charsEq]
  · simp only [span, stop, charsEq, byteSize_append, startEq]
    congr 1
    omega

/-! ## Cuts at a place -/

theorem stop_takeWhile (fragment : Fragment) (keep : Char → Bool) :
    (fragment.takeWhile keep).stop = (fragment.dropWhile keep).start := rfl

/-- A cut that leaves characters out leaves a gap. -/
theorem stop_take_lt_start_drop {fragment : Fragment} {count more : Nat}
    (isLess : count < more) (inside : count < fragment.chars.length) :
    (fragment.take count).stop < (fragment.drop more).start := by
  have := byteSize_take_lt isLess inside
  simp only [stop, take, drop]
  omega

/-- Blanks that are trimmed away leave a gap. -/
theorem start_lt_start_dropWhile {fragment : Fragment} {discard : Char → Bool}
    {char : Char} {rest : List Char} (charsEq : fragment.chars = char :: rest)
    (isDiscarded : discard char = true) :
    fragment.start < (fragment.dropWhile discard).start := by
  have := char.utf8Size_pos
  simp only [dropWhile, charsEq, List.takeWhile_cons, isDiscarded, if_true,
    byteSize_cons]
  omega

/-! ## The first word -/

/-- What `splitWord?` gives: a word, and what follows it behind a blank. -/
theorem splitWord?_spec {fragment word rest : Fragment}
    (split : fragment.splitWord? = some (word, rest)) :
    word.Within fragment ∧ word.chars ≠ [] ∧ rest.Within fragment ∧
      word.Before rest := by
  simp only [splitWord?] at split
  split at split
  · simp at split
  · rename_i trimmedNotEmpty
    simp only [Option.some.injEq, Prod.mk.injEq] at split
    obtain ⟨rfl, rfl⟩ := split
    have trimmedWithin := fragment.trimStart_within
    refine ⟨(takeWhile_within _ _).trans trimmedWithin, ?_,
      ((trimStart_within _).trans (dropWhile_within _ _)).trans trimmedWithin, ?_⟩
    · -- the trimmed fragment starts with a character that is not blank
      cases charsEq : fragment.trimStart.chars with
      | nil => simp [isEmpty, charsEq] at trimmedNotEmpty
      | cons char chars =>
          have notBlank : isBlank char = false :=
            head_of_dropWhile_eq_cons charsEq
          simp [takeWhile, charsEq, notBlank]
    · intro restNotEmpty
      rw [stop_takeWhile]
      have behindNotEmpty := (trimStart_within _).notEmpty restNotEmpty
      obtain ⟨char, chars, charsEq⟩ := List.exists_cons_of_ne_nil behindNotEmpty
      have blank : isBlank char = true := by
        simpa using head_of_dropWhile_eq_cons charsEq
      exact start_lt_start_dropWhile charsEq blank

/-! ## Cuts at border characters -/

variable {isBorder : Char → Bool} {start : Nat} {text : List Char}

theorem exists_splitOn_eq_cons (isBorder : Char → Bool) (start : Nat)
    (text : List Char) :
    ∃ first others, splitOn isBorder start text = ⟨start, first⟩ :: others := by
  cases text with
  | nil => exact ⟨[], [], rfl⟩
  | cons char rest =>
      rw [splitOn]
      split
      · exact ⟨[], _, rfl⟩
      · split
        · exact ⟨[char], [], rfl⟩
        · exact ⟨_, _, rfl⟩

theorem splitOn_cons_of_not_border {char : Char} {rest first : List Char}
    {others : List Fragment} (notBorder : isBorder char = false)
    (restEq : splitOn isBorder (start + char.utf8Size) rest =
      ⟨start + char.utf8Size, first⟩ :: others) :
    splitOn isBorder start (char :: rest) =
      ⟨start, char :: first⟩ :: others := by
  simp [splitOn, notBorder, restEq]

theorem within_cons (char : Char) (rest : List Char) (start : Nat) :
    (⟨start + char.utf8Size, rest⟩ : Fragment).Within ⟨start, char :: rest⟩ :=
  ⟨[char], [], by simp, by simp⟩

/-- A part that begins where the whole begins may take the character before
both. -/
theorem Within.cons {char : Char} {rest first : List Char}
    (within : (⟨start + char.utf8Size, first⟩ : Fragment).Within
      ⟨start + char.utf8Size, rest⟩) :
    (⟨start, char :: first⟩ : Fragment).Within ⟨start, char :: rest⟩ := by
  obtain ⟨before, after, charsEq, startEq⟩ := within
  have beforeNil : before = [] := by
    apply byteSize_eq_zero.1
    simp only at startEq
    omega
  subst beforeNil
  exact ⟨[], after, by simpa using charsEq, by simp⟩

theorem within_of_mem_splitOn {part : Fragment}
    (isPart : part ∈ splitOn isBorder start text) :
    part.Within ⟨start, text⟩ := by
  induction text generalizing start part with
  | nil =>
      rw [splitOn, List.mem_singleton] at isPart
      subst isPart
      exact Within.refl _
  | cons char rest ih =>
      by_cases border : isBorder char = true
      · rw [splitOn, if_pos border] at isPart
        rcases List.mem_cons.1 isPart with rfl | later
        · exact ⟨[], char :: rest, by simp, by simp⟩
        · exact (ih later).trans (within_cons char rest start)
      · obtain ⟨first, others, restEq⟩ :=
          exists_splitOn_eq_cons isBorder (start + char.utf8Size) rest
        rw [splitOn_cons_of_not_border (by simpa using border) restEq] at isPart
        rcases List.mem_cons.1 isPart with rfl | later
        · exact (ih (by simp [restEq])).cons
        · have inRest := ih (by rw [restEq]; exact List.mem_cons_of_mem _ later)
          exact inRest.trans (within_cons char rest start)

/-- Between two parts stands a border. -/
theorem splitOn_pairwise (isBorder : Char → Bool) (start : Nat)
    (text : List Char) :
    (splitOn isBorder start text).Pairwise fun first second =>
      first.stop < second.start := by
  induction text generalizing start with
  | nil => simp [splitOn]
  | cons char rest ih =>
      have ordered := ih (start + char.utf8Size)
      by_cases border : isBorder char = true
      · rw [splitOn, if_pos border, List.pairwise_cons]
        refine ⟨?_, ordered⟩
        intro part isPart
        have bounds := (within_of_mem_splitOn isPart).bounds
        have positive := char.utf8Size_pos
        simp only [stop, byteSize_nil] at bounds ⊢
        omega
      · obtain ⟨first, others, restEq⟩ :=
          exists_splitOn_eq_cons isBorder (start + char.utf8Size) rest
        rw [restEq, List.pairwise_cons] at ordered
        rw [splitOn_cons_of_not_border (by simpa using border) restEq,
          List.pairwise_cons]
        refine ⟨?_, ordered.2⟩
        intro part isPart
        have gap := ordered.1 part isPart
        simp only [stop, byteSize_cons] at gap ⊢
        omega

theorem not_border_of_mem_splitOn {part : Fragment} {char : Char}
    (isPart : part ∈ splitOn isBorder start text) (inPart : char ∈ part.chars) :
    isBorder char = false := by
  induction text generalizing start part with
  | nil =>
      rw [splitOn, List.mem_singleton] at isPart
      simp [isPart] at inPart
  | cons head rest ih =>
      by_cases border : isBorder head = true
      · rw [splitOn, if_pos border] at isPart
        rcases List.mem_cons.1 isPart with rfl | later
        · simp at inPart
        · exact ih later inPart
      · obtain ⟨first, others, restEq⟩ :=
          exists_splitOn_eq_cons isBorder (start + head.utf8Size) rest
        rw [splitOn_cons_of_not_border (by simpa using border) restEq] at isPart
        rcases List.mem_cons.1 isPart with rfl | later
        · rcases List.mem_cons.1 inPart with rfl | inFirst
          · simpa using border
          · have isFirst : ⟨start + head.utf8Size, first⟩ ∈
                splitOn isBorder (start + head.utf8Size) rest := by
              simp [restEq]
            exact ih isFirst inFirst
        · exact ih (by rw [restEq]; exact List.mem_cons_of_mem _ later) inPart

/-! ## Words -/

theorem words_spec {fragment word : Fragment} (isWord : word ∈ fragment.words) :
    word.Within fragment ∧ word.chars ≠ [] := by
  obtain ⟨isPart, notEmpty⟩ := List.mem_filter.1 isWord
  exact ⟨within_of_mem_splitOn isPart, by simpa [isEmpty] using notEmpty⟩

theorem words_pairwise (fragment : Fragment) :
    fragment.words.Pairwise fun first second => first.stop < second.start :=
  (splitOn_pairwise isBlank fragment.start fragment.chars).filter _

end Fragment

end Gamebook
