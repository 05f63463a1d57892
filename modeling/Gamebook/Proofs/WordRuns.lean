import Mathlib.Data.List.DropRight
import Gamebook.Proofs.SceneFiles
import Gamebook.Proofs.WordPlaces

/-!
# The runs that words are made of

Words of prose are the longest runs of word characters, without the apostrophes around them.
A `WordRun` is such a run with everything around it: the text up to the end of the run before,
the gap behind that run, and what follows.  Scanning finds the runs from left to right, so a
run is either the first one or a run of what follows the first one.  Whether a word starts a
sentence can be read off the gap before its run.
-/

namespace Gamebook

/-- A run of word characters of a text that cannot be made longer.  The text before it ends with
a gap, and before the gap with another run, if there is one. -/
@[ext]
structure WordRun (text : List Char) where
  earlier : List Char
  gap : List Char
  chars : List Char
  after : List Char
  text_eq : text = earlier ++ gap ++ chars ++ after
  earlier_ends : ∀ char ∈ earlier.getLast?, isWordChar char = true
  gap_plain : ∀ char ∈ gap, isWordChar char = false
  apart : earlier ≠ [] → gap ≠ []
  notEmpty : chars ≠ []
  isProse : ∀ char ∈ chars, isWordChar char = true
  after_stops : ∀ char ∈ after.head?, isWordChar char = false

/-- Blanks, double quotation marks, the opening single one, parentheses, the hyphen and the dash
leave it open whether a sentence starts. -/
def LeavesOpen (char : Char) : Prop :=
  isBlank char = true ∨ char ∈ "\"“”‘()-—".toList

/-- A sentence ends in the gap, and what follows leaves this as it is. -/
def SentenceEnds (gap : List Char) : Prop :=
  ∃ left mark right, gap = left ++ mark :: right ∧ mark ∈ ".!?".toList ∧
    ∀ char ∈ right, LeavesOpen char

namespace WordRun

variable {text : List Char}

/-- Before the run a sentence ends, or it is the first run of a text that starts a sentence and
nothing before it says otherwise. -/
def StartsSentence (run : WordRun text) (startsText : Bool) : Prop :=
  SentenceEnds run.gap ∨
    (run.earlier = [] ∧ startsText = true ∧ ∀ char ∈ run.gap, LeavesOpen char)

theorem head_chars (run : WordRun text) :
    ∃ char rest, run.chars = char :: rest ∧ isWordChar char = true := by
  obtain ⟨char, rest, charsEq⟩ := List.exists_cons_of_ne_nil run.notEmpty
  exact ⟨char, rest, charsEq, run.isProse char (by simp [charsEq])⟩

/-- A run of what follows another run. -/
def behind (first : WordRun text) (later : WordRun first.after) : WordRun text where
  earlier := first.earlier ++ first.gap ++ first.chars ++ later.earlier
  gap := later.gap
  chars := later.chars
  after := later.after
  text_eq := by
    have rejoined := congrArg (first.earlier ++ first.gap ++ first.chars ++ ·) later.text_eq
    simpa using first.text_eq.trans rejoined
  earlier_ends := by
    intro char isLast
    by_cases isFirst : later.earlier = []
    · rw [isFirst, List.append_nil, List.getLast?_append_of_ne_nil _ first.notEmpty] at isLast
      exact first.isProse char (List.mem_of_getLast? isLast)
    · rw [List.getLast?_append_of_ne_nil _ isFirst] at isLast
      exact later.earlier_ends char isLast
  gap_plain := later.gap_plain
  apart := by
    intro _ gapEmpty
    by_cases isFirst : later.earlier = []
    · -- the later run would continue the first one
      obtain ⟨char, rest, charsEq, isWord⟩ := later.head_chars
      have stops := first.after_stops char (by simp [later.text_eq, isFirst, gapEmpty, charsEq])
      simp [isWord] at stops
    · exact later.apart isFirst gapEmpty
  notEmpty := later.notEmpty
  isProse := later.isProse
  after_stops := later.after_stops

/-- The run that the first word character belongs to. -/
def ofDropWhile (notPlain : text.dropWhile (!isWordChar ·) ≠ []) : WordRun text where
  earlier := []
  gap := text.takeWhile (!isWordChar ·)
  chars := (text.dropWhile (!isWordChar ·)).takeWhile isWordChar
  after := (text.dropWhile (!isWordChar ·)).dropWhile isWordChar
  text_eq := by simp [List.takeWhile_append_dropWhile]
  earlier_ends := by simp
  gap_plain := by
    intro char inGap
    simpa using List.all_eq_true.1 List.all_takeWhile char inGap
  apart := by simp
  notEmpty := by
    obtain ⟨char, rest, restEq⟩ := List.exists_cons_of_ne_nil notPlain
    have isWord := head_of_dropWhile_eq_cons restEq
    simp [restEq, by simpa using isWord]
  isProse := List.all_eq_true.1 List.all_takeWhile
  after_stops := by
    intro char isHead
    obtain ⟨rest, restEq⟩ := List.head?_eq_some_iff.1 isHead
    exact head_of_dropWhile_eq_cons restEq

/-- The run that a word character belongs to. -/
def around (before after : List Char) {char : Char} (isWord : isWordChar char = true) :
    WordRun (before ++ char :: after) where
  earlier := (before.rdropWhile isWordChar).rdropWhile (!isWordChar ·)
  gap := (before.rdropWhile isWordChar).rtakeWhile (!isWordChar ·)
  chars := before.rtakeWhile isWordChar ++ char :: after.takeWhile isWordChar
  after := after.dropWhile isWordChar
  text_eq := by
    rw [List.rdropWhile_append_rtakeWhile, ← List.append_assoc, List.rdropWhile_append_rtakeWhile,
      List.append_assoc, List.cons_append, List.takeWhile_append_dropWhile]
  earlier_ends := by
    intro last isLast
    have notEmpty : (before.rdropWhile isWordChar).rdropWhile (!isWordChar ·) ≠ [] := by
      rintro isEmpty
      simp [isEmpty] at isLast
    have lastKept := List.rdropWhile_last_not (!isWordChar ·) _ notEmpty
    rw [List.getLast?_eq_some_getLast notEmpty, Option.mem_some] at isLast
    simpa [isLast] using lastKept
  gap_plain := by
    intro item inGap
    simpa using List.mem_rtakeWhile_imp inGap
  apart := by
    intro notFirst gapEmpty
    have notEmpty : before.rdropWhile isWordChar ≠ [] := by
      rintro isEmpty
      simp [isEmpty] at notFirst
    have lastPlain := List.rdropWhile_last_not isWordChar before notEmpty
    exact (List.rtakeWhile_eq_nil_iff.1 gapEmpty notEmpty) (by simpa using lastPlain)
  notEmpty := by simp
  isProse := by
    intro item inRun
    rcases List.mem_append.1 inRun with inBefore | inRest
    · exact List.mem_rtakeWhile_imp inBefore
    · rcases List.mem_cons.1 inRest with rfl | inAfter
      · exact isWord
      · exact List.all_eq_true.1 List.all_takeWhile item inAfter
  after_stops := by
    intro item isHead
    obtain ⟨rest, restEq⟩ := List.head?_eq_some_iff.1 isHead
    exact head_of_dropWhile_eq_cons restEq

theorem takeWhile_gap (run : WordRun text) (isFirst : run.earlier = []) :
    text.takeWhile (!isWordChar ·) = run.gap ∧
      text.dropWhile (!isWordChar ·) = run.chars ++ run.after := by
  obtain ⟨char, rest, charsEq, isWord⟩ := run.head_chars
  have stops : ∀ item ∈ (run.chars ++ run.after).head?, (!isWordChar item) = false := by
    simp [charsEq, isWord]
  have textEq : text = run.gap ++ (run.chars ++ run.after) := by
    simpa [isFirst] using run.text_eq
  have plain : ∀ item ∈ run.gap, (!isWordChar item) = true := by
    simpa using run.gap_plain
  constructor
  · rw [congrArg (List.takeWhile (!isWordChar ·)) textEq, takeWhile_append_of_head? stops,
      List.takeWhile_eq_self_iff.2 plain]
  · rw [congrArg (List.dropWhile (!isWordChar ·)) textEq, dropWhile_append_of_head? stops,
      List.dropWhile_eq_nil_iff.2 plain, List.nil_append]

theorem takeWhile_chars (run : WordRun text) :
    (run.chars ++ run.after).takeWhile isWordChar = run.chars ∧
      (run.chars ++ run.after).dropWhile isWordChar = run.after := by
  rw [takeWhile_append_of_head? run.after_stops, dropWhile_append_of_head? run.after_stops,
    List.takeWhile_eq_self_iff.2 run.isProse, List.dropWhile_eq_nil_iff.2 run.isProse]
  exact ⟨rfl, rfl⟩

/-- A text has one first run. -/
theorem eq_of_first (first run : WordRun text) (isFirst : first.earlier = [])
    (alsoFirst : run.earlier = []) : run = first := by
  obtain ⟨gapEq, restEq⟩ := first.takeWhile_gap isFirst
  obtain ⟨gapEq', restEq'⟩ := run.takeWhile_gap alsoFirst
  obtain ⟨charsEq, afterEq⟩ := first.takeWhile_chars
  obtain ⟨charsEq', afterEq'⟩ := run.takeWhile_chars
  rw [← restEq] at charsEq afterEq
  rw [← restEq'] at charsEq' afterEq'
  ext1
  · rw [isFirst, alsoFirst]
  · exact gapEq'.symm.trans gapEq
  · exact charsEq'.symm.trans charsEq
  · exact afterEq'.symm.trans afterEq

/-- Every other run is a run of what follows the first one. -/
theorem eq_behind_of_not_first (first run : WordRun text) (isFirst : first.earlier = [])
    (notFirst : run.earlier ≠ []) :
    ∃ later : WordRun first.after, run = first.behind later := by
  obtain ⟨front, last, earlierEq⟩ := (List.eq_nil_or_concat run.earlier).resolve_left notFirst
  rw [List.concat_eq_append] at earlierEq
  have isWord : isWordChar last = true := run.earlier_ends last (by simp [earlierEq])
  let ending := run.gap ++ run.chars ++ run.after
  have textEq : text = front ++ last :: ending := by
    simpa [earlierEq, ending] using run.text_eq
  -- what follows the first gap, and then what follows the first run
  let tail := front.dropWhile (!isWordChar ·) ++ [last]
  have frontEq : first.gap ++ tail = front ++ [last] := by
    have stops : ∀ item ∈ (last :: ending).head?, (!isWordChar item) = false := by simp [isWord]
    rw [← (first.takeWhile_gap isFirst).1, congrArg (List.takeWhile (!isWordChar ·)) textEq,
      takeWhile_append_of_head? stops, ← List.append_assoc, List.takeWhile_append_dropWhile]
  have tailEq : first.chars ++ first.after = tail ++ ending := by
    have rejoined : first.gap ++ (first.chars ++ first.after) = first.gap ++ (tail ++ ending) := by
      rw [← List.append_assoc first.gap tail, frontEq]
      simpa [isFirst, textEq] using first.text_eq.symm
    exact List.append_cancel_left rejoined
  have stops : ∀ item ∈ ending.head?, isWordChar item = false := by
    obtain ⟨char, rest, gapEq⟩ := List.exists_cons_of_ne_nil (run.apart notFirst)
    simpa [ending, gapEq] using run.gap_plain char (by simp [gapEq])
  obtain ⟨charsEq, afterEq⟩ := first.takeWhile_chars
  rw [tailEq, takeWhile_append_of_head? stops] at charsEq
  rw [tailEq, dropWhile_append_of_head? stops] at afterEq
  have tailRejoined : first.chars ++ tail.dropWhile isWordChar = tail := by
    rw [← charsEq, List.takeWhile_append_dropWhile]
  refine ⟨⟨tail.dropWhile isWordChar, run.gap, run.chars, run.after, ?_, ?_, run.gap_plain, ?_,
    run.notEmpty, run.isProse, run.after_stops⟩, ?_⟩
  · rw [← afterEq]
    simp [ending]
  · intro char isLast
    have lastEq : tail.getLast? = some char := by
      rw [← tailRejoined, List.getLast?_append, Option.mem_def.1 isLast, Option.some_or]
    obtain rfl : last = char := by simpa [tail] using lastEq
    exact isWord
  · exact fun _ => run.apart notFirst
  · ext1
    · simp only [behind, isFirst, List.nil_append]
      rw [List.append_assoc, tailRejoined, frontEq, earlierEq]
    all_goals rfl

end WordRun

/-! ## The gaps before runs -/

theorem isNeutral_iff {char : Char} : isNeutral char = true ↔ LeavesOpen char := by
  rw [isNeutral, Bool.or_eq_true, List.contains_iff_mem, LeavesOpen]

theorem endsSentence_iff {char : Char} : endsSentence char = true ↔ char ∈ ".!?".toList := by
  simp [endsSentence, or_assoc]

theorem sentenceEnds_cons_iff {char : Char} {rest : List Char} :
    SentenceEnds (char :: rest) ↔
      SentenceEnds rest ∨ (char ∈ ".!?".toList ∧ ∀ char ∈ rest, LeavesOpen char) := by
  constructor
  · rintro ⟨left, mark, right, gapEq, ends, neutral⟩
    cases left with
    | nil =>
        obtain ⟨rfl, rfl⟩ := List.cons.inj gapEq
        exact .inr ⟨ends, neutral⟩
    | cons first left =>
        obtain ⟨rfl, rfl⟩ := List.cons.inj gapEq
        exact .inl ⟨left, mark, right, rfl, ends, neutral⟩
  · rintro (⟨left, mark, right, rfl, ends, neutral⟩ | ⟨ends, neutral⟩)
    · exact ⟨char :: left, mark, right, rfl, ends, neutral⟩
    · exact ⟨[], char, rest, rfl, ends, neutral⟩

theorem sentenceAfter_iff (starts : Bool) (gap : List Char) :
    sentenceAfter starts gap = true ↔
      SentenceEnds gap ∨ (starts = true ∧ ∀ char ∈ gap, LeavesOpen char) := by
  induction gap generalizing starts with
  | nil => simp [sentenceAfter, SentenceEnds]
  | cons char rest ih =>
      have step : sentenceAfter starts (char :: rest) =
          sentenceAfter (endsSentence char || (isNeutral char && starts)) rest := rfl
      rw [step, ih, sentenceEnds_cons_iff, List.forall_mem_cons]
      rw [Bool.or_eq_true, Bool.and_eq_true, endsSentence_iff, isNeutral_iff]
      tauto

theorem WordRun.sentenceAfter_gap_iff {text : List Char} (run : WordRun text) (starts : Bool) :
    sentenceAfter (starts && run.earlier.isEmpty) run.gap = true ↔ run.StartsSentence starts := by
  rw [sentenceAfter_iff, StartsSentence]
  simp only [Bool.and_eq_true, List.isEmpty_iff]
  tauto

namespace Word

variable {starts : Bool} {prose : Fragment} {word : Word}

/-- Every run in turn becomes a word, unless it is all apostrophes. -/
theorem mem_scan_iff_ofRun? :
    word ∈ scan starts prose ↔ ∃ run : WordRun prose.chars,
      ofRun? (sentenceAfter (starts && run.earlier.isEmpty) run.gap)
        ⟨prose.start + byteSize (run.earlier ++ run.gap), run.chars⟩ = some word := by
  rw [scan_eq_byRuns]
  fun_induction byRuns starts prose with
  | case1 starts prose rest isEmpty =>
      have plain : ∀ char ∈ prose.chars, isWordChar char = false := by
        simpa [rest, Fragment.isEmpty, Fragment.dropWhile] using isEmpty
      simp only [List.not_mem_nil, false_iff, not_exists]
      intro run
      obtain ⟨char, others, charsEq, isWord⟩ := run.head_chars
      have inProse : char ∈ prose.chars := by simp [run.text_eq, charsEq]
      simp [plain char inProse] at isWord
  | case2 starts prose rest notEmpty gap ih =>
      have notPlain : prose.chars.dropWhile (!isWordChar ·) ≠ [] := by
        simpa [rest, Fragment.isEmpty, Fragment.dropWhile] using notEmpty
      let first := WordRun.ofDropWhile notPlain
      have atFirst : ofRun? (sentenceAfter (starts && first.earlier.isEmpty) first.gap)
            ⟨prose.start + byteSize (first.earlier ++ first.gap), first.chars⟩ =
          ofRun? (sentenceAfter starts gap.chars) (rest.takeWhile isWordChar) := by
        rw [show (starts && first.earlier.isEmpty) = starts from Bool.and_true starts]
        rfl
      have atLater (later : WordRun first.after) :
          ofRun? (sentenceAfter (starts && (first.behind later).earlier.isEmpty) later.gap)
            ⟨prose.start + byteSize ((first.behind later).earlier ++ later.gap), later.chars⟩ =
          ofRun? (sentenceAfter (false && later.earlier.isEmpty) later.gap)
            ⟨(rest.dropWhile isWordChar).start + byteSize (later.earlier ++ later.gap),
              later.chars⟩ := by
        have notFirst : (first.behind later).earlier.isEmpty = false := by
          simp [WordRun.behind, first.notEmpty]
        have startEq : prose.start + byteSize ((first.behind later).earlier ++ later.gap) =
            (rest.dropWhile isWordChar).start + byteSize (later.earlier ++ later.gap) := by
          simp only [WordRun.behind, WordRun.ofDropWhile, Fragment.dropWhile, first, rest,
            List.nil_append, byteSize_append]
          omega
        rw [notFirst, startEq, Bool.and_false, Bool.false_and]
      rw [List.mem_append, Option.mem_toList, ih]
      constructor
      · rintro (isWord | ⟨later, isWord⟩)
        · exact ⟨first, atFirst.trans isWord⟩
        · exact ⟨first.behind later, (atLater later).trans isWord⟩
      · rintro ⟨run, isWord⟩
        by_cases isFirst : run.earlier = []
        · obtain rfl := first.eq_of_first run rfl isFirst
          exact .inl (atFirst.symm.trans isWord)
        · obtain ⟨later, rfl⟩ := first.eq_behind_of_not_first run rfl isFirst
          exact .inr ⟨later, (atLater later).symm.trans isWord⟩

end Word

/-! ## The apostrophes around words -/

/-- The core is what is left of a run without the apostrophes around it. -/
structure Trims (run leading core trailing : List Char) : Prop where
  run_eq : run = leading ++ core ++ trailing
  leading_dropped : ∀ char ∈ leading, isApostrophe char = true
  trailing_dropped : ∀ char ∈ trailing, isApostrophe char = true
  notEmpty : core ≠ []
  head_kept : ∀ char ∈ core.head?, isApostrophe char = false
  last_kept : ∀ char ∈ core.getLast?, isApostrophe char = false

namespace Word

theorem trimApostrophes_of_trims {run leading core trailing : List Char}
    (trims : Trims run leading core trailing) (start : Nat) :
    trimApostrophes ⟨start, run⟩ = ⟨start + byteSize leading, core⟩ := by
  have stops : ∀ char ∈ (core ++ trailing).head?, isApostrophe char = false := by
    obtain ⟨char, rest, coreEq⟩ := List.exists_cons_of_ne_nil trims.notEmpty
    simpa [coreEq] using trims.head_kept char (by simp [coreEq])
  obtain ⟨front, last, coreEq⟩ := (List.eq_nil_or_concat core).resolve_left trims.notEmpty
  rw [List.concat_eq_append] at coreEq
  have trimmed : trimEndChars isApostrophe (core ++ trailing) = core := by
    rw [trimEndChars_append_of_all core trims.trailing_dropped, coreEq]
    exact trimEndChars_concat front (trims.last_kept last (by simp [coreEq]))
  simp only [trimApostrophes, Fragment.dropWhile, trims.run_eq, List.append_assoc]
  rw [takeWhile_append_of_head? stops, dropWhile_append_of_head? stops,
    List.takeWhile_eq_self_iff.2 trims.leading_dropped,
    List.dropWhile_eq_nil_iff.2 trims.leading_dropped, List.nil_append, trimmed]

end Word

/-- A character that is no apostrophe is in the core. -/
theorem trims_around (before after : List Char) {char : Char} (kept : isApostrophe char = false) :
    Trims (before ++ char :: after) (before.takeWhile isApostrophe)
      (before.dropWhile isApostrophe ++ char :: after.rdropWhile isApostrophe)
      (after.rtakeWhile isApostrophe) where
  run_eq := by
    rw [List.append_assoc, List.append_assoc, List.cons_append, List.rdropWhile_append_rtakeWhile,
      ← List.append_assoc, List.takeWhile_append_dropWhile]
  leading_dropped := List.all_eq_true.1 List.all_takeWhile
  trailing_dropped := fun _ inEnding => List.mem_rtakeWhile_imp inEnding
  notEmpty := by simp
  head_kept := by
    intro head isHead
    cases restEq : before.dropWhile isApostrophe with
    | nil =>
        obtain rfl : char = head := by simpa [restEq] using isHead
        exact kept
    | cons first rest =>
        obtain rfl : first = head := by simpa [restEq] using isHead
        exact head_of_dropWhile_eq_cons restEq
  last_kept := by
    intro last isLast
    rw [List.getLast?_append_of_ne_nil _ (List.cons_ne_nil _ _), List.getLast?_cons] at isLast
    by_cases isEmpty : after.rdropWhile isApostrophe = []
    · obtain rfl : char = last := by simpa [isEmpty] using isLast
      exact kept
    · have lastKept := List.rdropWhile_last_not isApostrophe after isEmpty
      obtain rfl : (after.rdropWhile isApostrophe).getLast isEmpty = last := by
        simpa [List.getLast?_eq_some_getLast isEmpty] using isLast
      simpa using lastKept

namespace Word

variable {starts : Bool} {run prose : Fragment} {word : Word}

theorem ofRun?_eq_some_iff :
    ofRun? starts run = some word ↔ word.startsSentence = starts ∧
      ∃ leading trailing, Trims run.chars leading word.fragment.chars trailing ∧
        word.fragment.start = run.start + byteSize leading := by
  constructor
  · intro isWord
    obtain ⟨notEmpty, rfl⟩ : ¬ (trimApostrophes run).isEmpty = true ∧
        ⟨trimApostrophes run, starts⟩ = word := by
      simpa [ofRun?] using isWord
    obtain ⟨char, inRun, kept⟩ : ∃ char ∈ run.chars, isApostrophe char = false := by
      by_contra none
      have dropped : ∀ char ∈ run.chars, isApostrophe char = true := by simpa using none
      simp [trimApostrophes, Fragment.isEmpty, Fragment.dropWhile,
        List.dropWhile_eq_nil_iff.2 dropped, trimEndChars] at notEmpty
    obtain ⟨before, after, runEq⟩ := List.append_of_mem inRun
    have trims := trims_around before after kept
    rw [← runEq] at trims
    have trimmed := trimApostrophes_of_trims trims run.start
    rw [show (⟨run.start, run.chars⟩ : Fragment) = run from rfl] at trimmed
    rw [trimmed]
    exact ⟨rfl, _, _, trims, rfl⟩
  · rintro ⟨rfl, leading, trailing, trims, startEq⟩
    have trimmed : trimApostrophes run = word.fragment := by
      rw [trimApostrophes_of_trims trims run.start, ← startEq]
    have notEmpty : word.fragment.isEmpty = false := by
      simpa [Fragment.isEmpty] using trims.notEmpty
    simp only [ofRun?, trimmed, notEmpty]
    rfl

/-- The word is the run without the apostrophes around it, and it starts a sentence if the run
does. -/
def OfRun (word : Word) (start : Nat) (startsText : Bool) {text : List Char}
    (run : WordRun text) : Prop :=
  (∃ leading trailing, Trims run.chars leading word.fragment.chars trailing ∧
    word.fragment.start = start + byteSize (run.earlier ++ run.gap ++ leading)) ∧
  (word.startsSentence = true ↔ run.StartsSentence startsText)

theorem mem_scan_iff :
    word ∈ scan starts prose ↔ ∃ run : WordRun prose.chars, word.OfRun prose.start starts run := by
  rw [mem_scan_iff_ofRun?]
  apply exists_congr
  intro run
  rw [ofRun?_eq_some_iff, OfRun, ← run.sentenceAfter_gap_iff, Bool.coe_iff_coe, and_comm]
  simp only [byteSize_append, Nat.add_assoc]

/-! ## The order of words, and what they cover -/

theorem scan_pairwise : (scan starts prose).Pairwise fun first second =>
    first.fragment.start < second.fragment.start ∧
      first.fragment.stop ≤ second.fragment.start := by
  rw [scan_eq_byRuns]
  fun_induction byRuns starts prose with
  | case1 starts prose rest isEmpty => exact List.Pairwise.nil
  | case2 starts prose rest notEmpty gap ih =>
      rw [List.pairwise_append]
      refine ⟨?_, ih, ?_⟩
      · cases ofRun? (sentenceAfter starts gap.chars) (rest.takeWhile isWordChar) <;> simp
      · intro first isFirst second isLater
        obtain ⟨within, firstNotEmpty⟩ := ofRun?_spec (Option.mem_toList.1 isFirst)
        rw [← scan_eq_byRuns] at isLater
        obtain ⟨laterWithin, _, _⟩ := scan_spec isLater
        have bounds := within.bounds
        have laterBounds := laterWithin.bounds
        have := Fragment.start_lt_stop firstNotEmpty
        rw [Fragment.stop_takeWhile] at bounds
        omega

theorem isApostrophe_of_isLetterOrNumeral {char : Char}
    (isLetter : isLetterOrNumeral char = true) : isApostrophe char = false := by
  by_contra isQuote
  simp only [isApostrophe, Bool.not_eq_false, Bool.or_eq_true, beq_iff_eq] at isQuote
  rcases isQuote with rfl | rfl <;> exact absurd isLetter (by decide +kernel)

theorem exists_word_of_letter {before after : List Char} {char : Char}
    (charsEq : prose.chars = before ++ char :: after) (isLetter : isLetterOrNumeral char = true) :
    ∃ word ∈ scan starts prose,
      (⟨prose.start + byteSize before, [char]⟩ : Fragment).Within word.fragment := by
  obtain ⟨start, chars⟩ := prose
  obtain rfl : chars = before ++ char :: after := charsEq
  have isWord : isWordChar char = true := by simp [isWordChar, isLetter]
  let run := WordRun.around before after isWord
  let inside := before.rtakeWhile isWordChar
  have trims := trims_around inside (after.takeWhile isWordChar)
    (isApostrophe_of_isLetterOrNumeral isLetter)
  let word : Word :=
    ⟨⟨start + byteSize (run.earlier ++ run.gap ++ inside.takeWhile isApostrophe),
      inside.dropWhile isApostrophe ++
        char :: (after.takeWhile isWordChar).rdropWhile isApostrophe⟩,
      sentenceAfter (starts && run.earlier.isEmpty) run.gap⟩
  refine ⟨word, mem_scan_iff.2 ⟨run, ⟨_, _, trims, rfl⟩, run.sentenceAfter_gap_iff starts⟩, ?_⟩
  refine ⟨inside.dropWhile isApostrophe, (after.takeWhile isWordChar).rdropWhile isApostrophe,
    by simp [word], ?_⟩
  have beforeEq : before = run.earlier ++ run.gap ++ inside.takeWhile isApostrophe ++
      inside.dropWhile isApostrophe := by
    rw [List.append_assoc _ (inside.takeWhile isApostrophe), List.takeWhile_append_dropWhile]
    simp only [run, inside, WordRun.around, List.rdropWhile_append_rtakeWhile]
  have sizeEq := congrArg byteSize beforeEq
  rw [byteSize_append] at sizeEq
  simp only [word]
  omega

theorem eq_of_covers {other : Word} {part : Fragment} (isWord : word ∈ scan starts prose)
    (isOther : other ∈ scan starts prose) (notEmpty : part.chars ≠ [])
    (covers : part.Within word.fragment) (otherCovers : part.Within other.fragment) :
    other = word := by
  by_contra different
  have inside := Fragment.start_lt_stop notEmpty
  have bounds := covers.bounds
  have otherBounds := otherCovers.bounds
  rcases before_or_behind scan_pairwise isOther isWord different with ordered | ordered <;> omega

/-- The words of prose are its longest runs of word characters without the apostrophes around
them, in order; every letter and numeral is in exactly one of them. -/
theorem scan_longest_runs (starts : Bool) (prose : Fragment) :
    (∀ word, word ∈ scan starts prose ↔
      ∃ run : WordRun prose.chars, word.OfRun prose.start starts run) ∧
    (∀ word ∈ scan starts prose, word.fragment.Within prose) ∧
    ((scan starts prose).Pairwise fun first second =>
      first.fragment.start < second.fragment.start ∧
        first.fragment.stop ≤ second.fragment.start) ∧
    ∀ before char after, prose.chars = before ++ char :: after → isLetterOrNumeral char = true →
      ∃! word, word ∈ scan starts prose ∧
        (⟨prose.start + byteSize before, [char]⟩ : Fragment).Within word.fragment := by
  refine ⟨fun word => mem_scan_iff, fun word isWord => (scan_spec isWord).1, scan_pairwise, ?_⟩
  intro before char after charsEq isLetter
  obtain ⟨word, isWord, covers⟩ := exists_word_of_letter charsEq isLetter
  refine ⟨word, ⟨isWord, covers⟩, ?_⟩
  rintro other ⟨isOther, otherCovers⟩
  exact eq_of_covers isWord isOther (List.cons_ne_nil char []) covers otherCovers

/-- The apostrophe between the quotation mark and the word belongs to the run but not to the
word, which starts a sentence behind the exclamation mark. -/
theorem scan_longest_runs_of_quotation :
    let prose : Fragment := ⟨0, "Stop! ‘'tis".toList⟩
    let word : Word := ⟨⟨10, "tis".toList⟩, true⟩
    (word ∈ scan false prose ∧ ∃ run : WordRun prose.chars, word.OfRun 0 false run) ∧
      (prose.chars = "Stop! ‘'".toList ++ 't' :: "is".toList ∧ isLetterOrNumeral 't' = true) ∧
      ∃! word, word ∈ scan false prose ∧ (⟨0 + 10, ['t']⟩ : Fragment).Within word.fragment := by
  intro prose word
  obtain ⟨isRun, _, _, covered⟩ := scan_longest_runs false prose
  have isWord : word ∈ scan false prose := by decide +kernel
  have charsEq : prose.chars = "Stop! ‘'".toList ++ 't' :: "is".toList := by decide
  exact ⟨⟨isWord, (isRun word).1 isWord⟩, ⟨charsEq, by decide⟩,
    covered "Stop! ‘'".toList 't' "is".toList charsEq (by decide)⟩

end Word

end Gamebook
