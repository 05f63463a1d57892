import Gamebook.Proofs.DictionaryRanks
import Gamebook.Proofs.EditAlignments

/-!
# The closest words of a dictionary

Suggestions are found by a walk over the places of the dictionary that skips the places without a
word, then the words of an unfit length, and only then counts edits.  The walk finds each word one
or two edits away exactly once, and what is offered is the beginning of the list of all these words
by distance and rank.
-/

namespace Gamebook

namespace Dictionary

/-- A word of the dictionary, in the form in which it is kept, one or two edits away from a word. -/
structure IsNear (dictionary : Dictionary) (word known : String) : Prop where
  contained : dictionary.contains known = true
  normal : normalize known = known
  different : 1 ≤ editDistance (normalize word).toList known.toList
  near : editDistance (normalize word).toList known.toList ≤ 2

/-- The first of two known words is closer to a word, or as close and of the lower rank. -/
def Nearer (dictionary : Dictionary) (word first second : String) : Prop :=
  editDistance (normalize word).toList first.toList <
      editDistance (normalize word).toList second.toList ∨
    editDistance (normalize word).toList first.toList =
        editDistance (normalize word).toList second.toList ∧
      ∃ firstRank ∈ dictionary.ranks[first]?, ∃ secondRank ∈ dictionary.ranks[second]?,
        firstRank < secondRank

variable {dictionary : Dictionary} {key : List Char}

theorem Nearer.ne {word first second : String} (nearer : dictionary.Nearer word first second) :
    first ≠ second := by
  rintro rfl
  rcases nearer with closer | ⟨-, rank, isRank, other, isOther, lower⟩
  · exact Nat.lt_irrefl _ closer
  · rw [Option.mem_def.1 isRank] at isOther
    cases isOther
    exact Nat.lt_irrefl _ lower

/-- Words whose lengths differ by more than the edits allowed are too far away. -/
theorem candidate?_eq_some_iff {known : String} {rank : Nat} {candidate : Candidate} :
    dictionary.candidate? key known rank = some candidate ↔
      dictionary.ranks[known]? = some rank ∧
        candidate = ⟨editDistance key known.toList, rank, known⟩ ∧
        1 ≤ candidate.distance ∧ candidate.distance ≤ 2 := by
  have notLonger := length_le_editDistance known.toList key
  rw [editDistance_comm, String.length_toList] at notLonger
  have notShorter := length_le_editDistance key known.toList
  rw [String.length_toList] at notShorter
  simp only [candidate?, Option.ite_none_left_eq_some, Option.ite_none_right_eq_some, not_not,
    Option.some.injEq]
  constructor
  · rintro ⟨isWord, -, near, rfl⟩
    exact ⟨isWord, rfl, near⟩
  · rintro ⟨isWord, rfl, near⟩
    refine ⟨isWord, ?_, near, rfl⟩
    simp only [distanceLimit] at near ⊢
    omega

/-- The candidates by rank, before they are sorted. -/
def candidates (dictionary : Dictionary) (key : List Char) : List Candidate :=
  dictionary.words.toList.zipIdx.filterMap fun (known, rank) =>
    dictionary.candidate? key known rank

theorem mem_candidates_iff (ranked : dictionary.Ranked) {candidate : Candidate} :
    candidate ∈ dictionary.candidates key ↔
      dictionary.ranks[candidate.word]? = some candidate.rank ∧
        candidate.distance = editDistance key candidate.word.toList ∧
        1 ≤ candidate.distance ∧ candidate.distance ≤ 2 := by
  simp only [candidates, List.mem_filterMap, Prod.exists, candidate?_eq_some_iff]
  constructor
  · rintro ⟨known, rank, -, isWord, rfl, near⟩
    exact ⟨isWord, rfl, near⟩
  · rintro ⟨isWord, isDistance, near⟩
    refine ⟨candidate.word, candidate.rank, ?_, isWord, by rw [← isDistance], near⟩
    simpa [List.mem_zipIdx_iff_getElem?] using ranked.word_at isWord

theorem candidates_pairwise_rank (dictionary : Dictionary) (key : List Char) :
    (dictionary.candidates key).Pairwise (·.rank < ·.rank) := by
  have places : dictionary.words.toList.zipIdx.Pairwise (·.2 < ·.2) := by
    rw [← List.pairwise_map, List.zipIdx_map_snd]
    exact List.pairwise_lt_range'
  rw [candidates, List.pairwise_filterMap]
  apply places.imp
  rintro ⟨known, rank⟩ ⟨other, otherRank⟩ lower first isFirst second isSecond
  obtain ⟨-, rfl, -⟩ := candidate?_eq_some_iff.1 isFirst
  obtain ⟨-, rfl, -⟩ := candidate?_eq_some_iff.1 isSecond
  exact lower

theorem Candidate.before_iff {first second : Candidate} :
    first.before second = true ↔ first.distance < second.distance ∨
      first.distance = second.distance ∧ first.rank ≤ second.rank := by
  simp [before]

/-- The ranks are different, so the sorted candidates come in the only possible order. -/
theorem mergeSort_candidates_pairwise (dictionary : Dictionary) (key : List Char) :
    ((dictionary.candidates key).mergeSort Candidate.before).Pairwise fun first second =>
      first.distance < second.distance ∨
        first.distance = second.distance ∧ first.rank < second.rank := by
  have sorted : ((dictionary.candidates key).mergeSort Candidate.before).Pairwise
      fun first second => first.before second = true := by
    apply List.pairwise_mergeSort
    · intro first second third
      simp only [Candidate.before_iff]
      omega
    · intro first second
      rw [Bool.or_eq_true]
      simp only [Candidate.before_iff]
      omega
  have distinct : ((dictionary.candidates key).mergeSort Candidate.before).Pairwise
      (·.rank ≠ ·.rank) := by
    rw [(List.mergeSort_perm _ _).pairwise_iff Ne.symm]
    exact (candidates_pairwise_rank dictionary key).imp Nat.ne_of_lt
  apply sorted.imp₂ _ distinct
  intro first second isBefore different
  rw [Candidate.before_iff] at isBefore
  omega

theorem isNear_iff (ranked : dictionary.Ranked) {word known : String} :
    dictionary.IsNear word known ↔
      ∃ candidate ∈ dictionary.candidates (normalize word).toList, candidate.word = known := by
  simp only [mem_candidates_iff ranked]
  constructor
  · rintro ⟨contained, normal, different, near⟩
    rw [contains, normal, Std.HashMap.contains_iff_mem] at contained
    have isRank := Std.HashMap.getElem?_eq_some_getElem contained
    refine ⟨⟨editDistance (normalize word).toList known.toList, dictionary.ranks[known], known⟩,
      ?_, rfl⟩
    dsimp only
    exact ⟨isRank, rfl, different, near⟩
  · rintro ⟨candidate, ⟨isWord, isDistance, different, near⟩, rfl⟩
    rw [isDistance] at different near
    have isKey : candidate.word ∈ dictionary.ranks := by
      rw [Std.HashMap.mem_iff_isSome_getElem?, isWord]
      rfl
    have normal := ranked.normal isKey
    exact ⟨by rwa [contains, normal, Std.HashMap.contains_iff_mem], normal, different, near⟩

theorem suggest_eq_closest (built : dictionary.Built) (word : String) :
    ∃ close : List String,
      (∀ known, known ∈ close ↔ dictionary.IsNear word known) ∧
      close.Nodup ∧
      close.Pairwise (dictionary.Nearer word) ∧
      ∀ limit, dictionary.suggest word limit =
        (close.take limit).map fun known => String.ofList (matchCase word.toList known.toList) := by
  have ranked := built.ranked
  let sorted := (dictionary.candidates (normalize word).toList).mergeSort Candidate.before
  have isSorted : ∀ {candidate}, candidate ∈ sorted ↔
      candidate ∈ dictionary.candidates (normalize word).toList :=
    (List.mergeSort_perm _ _).mem_iff
  have nearer : (sorted.map (·.word)).Pairwise (dictionary.Nearer word) := by
    rw [List.pairwise_map]
    apply (mergeSort_candidates_pairwise dictionary (normalize word).toList).imp_of_mem
    intro first second isFirst isSecond order
    obtain ⟨firstRank, firstDistance, -⟩ := (mem_candidates_iff ranked).1 (isSorted.1 isFirst)
    obtain ⟨secondRank, secondDistance, -⟩ := (mem_candidates_iff ranked).1 (isSorted.1 isSecond)
    rw [firstDistance, secondDistance] at order
    rcases order with closer | ⟨same, lower⟩
    · exact .inl closer
    · exact .inr ⟨same, _, firstRank, _, secondRank, lower⟩
  refine ⟨sorted.map (·.word), ?_, List.nodup_iff_pairwise_ne.2 (nearer.imp Nearer.ne), nearer, ?_⟩
  · intro known
    rw [List.mem_map, isNear_iff ranked]
    simp only [isSorted]
  · intro limit
    rw [← List.map_take, List.map_map]
    rfl

theorem suggest_eq_closest_of_swapped_letters :
    (insert (ofWordList "") "the").Built ∧
      (∀ known, (insert (ofWordList "") "the").IsNear "Teh" known ↔ known = "the") ∧
      (insert (ofWordList "") "the").suggest "Teh" 8 = ["The"] := by
  have built : (insert (ofWordList "") "the").Built := .insert "the" (.ofWordList "")
  have normal : normalize "the" = "the" := by decide +kernel
  have dictionaryEq : insert (ofWordList "") "the" =
      ⟨({} : Std.HashMap String Nat).insert "the" 0, #["the"]⟩ := by
    have noLines : textLines "" = [] := by decide +kernel
    simp [insert, insert?, ofWordList, noLines, normal]
  have near : ∀ known, (insert (ofWordList "") "the").IsNear "Teh" known ↔ known = "the" := by
    intro known
    rw [dictionaryEq]
    constructor
    · rintro ⟨contained, isNormal, -, -⟩
      rw [contains, isNormal, Std.HashMap.contains_insert] at contained
      symm
      simpa using contained
    · rintro rfl
      exact ⟨by simp [contains, normal], normal, by decide +kernel, by decide +kernel⟩
  refine ⟨built, near, ?_⟩
  obtain ⟨close, isClose, distinct, -, suggested⟩ := suggest_eq_closest built "Teh"
  have onlyThe : close.Perm ["the"] := by
    rw [List.perm_ext_iff_of_nodup distinct (by simp)]
    intro known
    rw [isClose, near, List.mem_singleton]
  rw [suggested, List.perm_singleton.1 onlyThe]
  decide +kernel

end Dictionary

end Gamebook
