import Mathlib.Data.List.Basic
import Gamebook.Spelling.Dictionary

/-!
# The places of words in a dictionary

A dictionary keeps the rank of each word beside the list of words, and both in the form in which
words are compared.  That form does not change any more when it is taken again, so the form of a
word is looked up where the word itself is.  Whatever is inserted or replaced, each rank leads to
the word it belongs to; a place that a word has left belongs to nobody.
-/

namespace Gamebook

/-! ## Lower case -/

namespace CaseRun

/-- The second run has nothing that the first one gives: the two ranges lie apart, or both have
every second code point and the one has the odd and the other the even ones. -/
def avoids (run other : CaseRun) : Bool :=
  Nat.blt (run.target run.last) other.first || Nat.blt other.last (run.target run.first) ||
    (other.step == 2 && (run.step == 2 || run.first == run.last) &&
      (run.target run.first + other.first) % 2 == 1)

/-- What the run gives are characters that only another run could change: the dotted capital I, the
curly apostrophe, the ASCII capitals and the surrogates are not among them. -/
def givesPlain (run : CaseRun) : Bool :=
  decide (0 ≤ Int.ofNat run.first + run.distance) &&
  (decide (run.target run.last < 0x130) || decide (0x130 < run.target run.first)) &&
  (decide (run.target run.last < 0x2019) || decide (0x2019 < run.target run.first)) &&
  (decide (run.target run.last < 0xD800) ||
    (decide (0xDFFF < run.target run.first) && decide (run.target run.last < 0x110000))) &&
  (decide (0x80 ≤ run.target run.first) ||
    (decide (0x61 ≤ run.target run.first) && decide (run.target run.last ≤ 0x7A)))

theorem contains_target_of_avoids {run other : CaseRun} {code : Nat}
    (natural : 0 ≤ Int.ofNat run.first + run.distance)
    (avoids : run.avoids other = true) (inRun : run.contains code = true) :
    other.contains (run.target code) = false := by
  rw [Bool.eq_false_iff]
  intro inOther
  simp only [CaseRun.avoids, Bool.or_eq_true, Bool.and_eq_true, beq_iff_eq, Nat.blt_eq] at avoids
  simp only [CodeRun.contains, Bool.and_eq_true, decide_eq_true_eq, beq_iff_eq] at inRun inOther
  simp only [target, Int.ofNat_eq_natCast] at avoids inOther natural
  rcases avoids with (below | above) | ⟨⟨otherStep, runStep⟩, odd⟩
  · omega
  · omega
  · rw [otherStep] at inOther
    rcases runStep with step | single
    · rw [step] at inRun
      omega
    · omega

end CaseRun

theorem lowerRuns_avoid : ∀ run ∈ lowerRuns, run.givesPlain = true ∧
    ∀ other ∈ lowerRuns, run.avoids other = true := by
  have checked : (lowerRuns.all fun run => run.givesPlain && lowerRuns.all run.avoids) = true := by
    decide +kernel
  simpa [List.all_eq_true] using checked

/-- A character that lower case and the folding of apostrophes leave alone. -/
def IsSettled (char : Char) : Prop :=
  char ≠ '’' ∧ lowerChars char = [char]

instance (char : Char) : Decidable (IsSettled char) :=
  inferInstanceAs (Decidable (_ ∧ _))

theorem isSettled_target {run : CaseRun} {code : Nat} (isRun : run ∈ lowerRuns)
    (inRun : run.contains code = true) : IsSettled (Char.ofNat (run.target code)) := by
  obtain ⟨plain, avoids⟩ := lowerRuns_avoid run isRun
  have bounds := inRun
  simp only [CodeRun.contains, Bool.and_eq_true, decide_eq_true_eq] at bounds
  simp only [CaseRun.givesPlain, Bool.or_eq_true, Bool.and_eq_true, decide_eq_true_eq] at plain
  have missed : lowerRuns.find? (·.contains (run.target code)) = none := by
    rw [List.find?_eq_none]
    intro other isOther
    simp [CaseRun.contains_target_of_avoids plain.1.1.1.1 (avoids other isOther) inRun]
  have lower : run.target run.first ≤ run.target code := by
    simp only [CaseRun.target, Int.ofNat_eq_natCast]
    omega
  have upper : run.target code ≤ run.target run.last := by
    simp only [CaseRun.target, Int.ofNat_eq_natCast]
    omega
  have codeEq : (Char.ofNat (run.target code)).toNat = run.target code := by
    have valid : (run.target code).isValidChar := by
      simp only [Nat.isValidChar]
      omega
    rw [Char.ofNat, dif_pos valid]
    rfl
  have ofLetter : ∀ letter < 0x80, 0x61 ≤ letter → letter ≤ 0x7A →
      (Char.ofNat letter).toLower = Char.ofNat letter := by
    decide +kernel
  refine ⟨?_, ?_⟩
  · intro isCurly
    have := congrArg Char.toNat isCurly
    rw [codeEq, show ('’' : Char).toNat = 0x2019 from rfl] at this
    omega
  · rw [lowerChars, codeEq]
    split
    · rw [ofLetter _ (by assumption) (by omega) (by omega)]
    · rw [if_neg (by omega), mapByRuns, missed]

theorem isSettled_of_mem_lowerChars {char lower : Char} (notCurly : char ≠ '’')
    (isLower : lower ∈ lowerChars char) : IsSettled lower := by
  have ofAscii : ∀ code < 0x80, IsSettled (Char.ofNat code).toLower := by decide +kernel
  unfold lowerChars at isLower
  split at isLower
  · rename_i isAscii
    obtain rfl := List.mem_singleton.1 isLower
    simpa using ofAscii char.toNat isAscii
  · split at isLower
    · simp only [List.mem_cons, List.not_mem_nil, or_false] at isLower
      rcases isLower with rfl | rfl <;> decide +kernel
    · rename_i notAscii notDotted
      obtain rfl := List.mem_singleton.1 isLower
      cases found : lowerRuns.find? (·.contains char.toNat) with
      | some run =>
          have inRun := List.find?_some found
          rw [mapByRuns, found]
          exact isSettled_target (List.mem_of_find?_eq_some found) inRun
      | none =>
          have same : Char.ofNat (mapByRuns lowerRuns char.toNat) = char := by
            rw [mapByRuns, found]
            exact Char.ofNat_toNat char
          rw [same]
          exact ⟨notCurly, by rw [lowerChars, if_neg notAscii, if_neg notDotted, same]⟩

theorem normalize_normalize (word : String) : normalize (normalize word) = normalize word := by
  simp only [normalize, String.toList_ofList, List.flatMap_assoc]
  congr 1
  apply List.flatMap_congr
  intro char _
  have straight : (if char = '’' then '\'' else char) ≠ '’' := by
    split
    · decide
    · assumption
  calc
    _ = (lowerChars (if char = '’' then '\'' else char)).flatMap fun lower => [lower] := by
        apply List.flatMap_congr
        intro lower isLower
        obtain ⟨notCurly, settled⟩ := isSettled_of_mem_lowerChars straight isLower
        rw [if_neg notCurly, settled]
    _ = _ := List.flatMap_singleton' _

/-! ## Ranks -/

namespace Dictionary

/-- Every word stands at its rank, in the form in which words are compared. -/
structure Ranked (dictionary : Dictionary) : Prop where
  word_at : ∀ {key : String} {rank : Nat}, dictionary.ranks[key]? = some rank →
    dictionary.words[rank]? = some key
  normal : ∀ {key : String}, key ∈ dictionary.ranks → normalize key = key

/-- What the program makes a dictionary of: a word list or a built-in one, and words added to it. -/
inductive Built : Dictionary → Prop where
  | ofWordList (text : String) : Built (ofWordList text)
  | builtin (language : DictionaryLanguage) : Built (builtin language)
  | insert {dictionary : Dictionary} (word : String) :
      Built dictionary → Built (dictionary.insert word)

namespace Ranked

variable {dictionary : Dictionary}

theorem empty : Ranked {} :=
  ⟨by simp, by simp⟩

theorem insert (ranked : dictionary.Ranked) (word : String) :
    (dictionary.insert word).Ranked := by
  unfold Dictionary.insert insert?
  simp only
  split
  · exact ranked
  · simp only [Option.getD_some]
    constructor
    · intro key rank isRank
      rw [Std.HashMap.getElem?_insert] at isRank
      split at isRank
      · rename_i same
        cases isRank
        simp [beq_iff_eq.1 same]
      · have isWord := ranked.word_at isRank
        obtain ⟨inside, -⟩ := Array.getElem?_eq_some_iff.1 isWord
        rw [Array.getElem?_push_lt inside, ← isWord, Array.getElem?_eq_getElem inside]
    · intro key isKey
      rcases Std.HashMap.mem_insert.1 isKey with same | old
      · rw [← beq_iff_eq.1 same, normalize_normalize]
      · exact ranked.normal old

theorem erase (ranked : dictionary.Ranked) (old : String) :
    Ranked { dictionary with ranks := dictionary.ranks.erase old } := by
  constructor
  · intro key rank isRank
    rw [Std.HashMap.getElem?_erase] at isRank
    split at isRank
    · cases isRank
    · exact ranked.word_at isRank
  · intro key isKey
    exact ranked.normal (Std.HashMap.mem_erase.1 isKey).2

theorem replace (ranked : dictionary.Ranked) (old new : String) :
    (dictionary.replace old new).Ranked := by
  unfold Dictionary.replace
  simp only
  split
  · exact ranked.erase _
  · split
    · rename_i place isOld
      have isOldWord := ranked.word_at isOld
      obtain ⟨inside, -⟩ := Array.getElem?_eq_some_iff.1 isOldWord
      constructor
      · intro key rank isRank
        simp only [Std.HashMap.getElem?_insert] at isRank
        split at isRank
        · rename_i same
          cases isRank
          rw [Array.getElem?_setIfInBounds_self_of_lt inside, beq_iff_eq.1 same]
        · -- no other word has the place of the old one
          rw [Std.HashMap.getElem?_erase] at isRank
          split at isRank
          · cases isRank
          · rename_i notOld
            have isWord := ranked.word_at isRank
            have elsewhere : place ≠ rank := by
              rintro rfl
              rw [isOldWord, Option.some_inj] at isWord
              exact notOld (beq_iff_eq.2 isWord)
            rw [Array.getElem?_setIfInBounds_ne elsewhere, isWord]
      · intro key isKey
        rcases Std.HashMap.mem_insert.1 isKey with same | isKey
        · rw [← beq_iff_eq.1 same, normalize_normalize]
        · exact ranked.normal (Std.HashMap.mem_erase.1 isKey).2
    · exact ranked.insert _

theorem foldl_insert (ranked : dictionary.Ranked) (words : List String) :
    (words.foldl Dictionary.insert dictionary).Ranked := by
  induction words generalizing dictionary with
  | nil => exact ranked
  | cons word words ih => exact ih (ranked.insert word)

theorem foldl_replace (ranked : dictionary.Ranked) (variants : List (String × String)) :
    (variants.foldl (fun dictionary variant => dictionary.replace variant.1 variant.2)
      dictionary).Ranked := by
  induction variants generalizing dictionary with
  | nil => exact ranked
  | cons variant variants ih => exact ih (ranked.replace variant.1 variant.2)

theorem builtin (language : DictionaryLanguage) : (builtin language).Ranked := by
  have american : american.Ranked := empty.foldl_insert _
  cases language with
  | american => exact american
  | british => exact american.foldl_replace _

end Ranked

theorem Built.ranked {dictionary : Dictionary} (built : dictionary.Built) :
    dictionary.Ranked := by
  induction built with
  | ofWordList text => exact Ranked.empty.foldl_insert _
  | builtin language => exact .builtin language
  | insert word _ ranked => exact ranked.insert word

end Dictionary

end Gamebook
