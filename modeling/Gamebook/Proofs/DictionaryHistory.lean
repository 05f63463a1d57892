import Mathlib.Data.List.Induction
import Gamebook.Proofs.DictionaryRanks

/-!
# What a dictionary remembers

Words come into a dictionary one by one, or one in the place of another.  Whatever the calls
were, the map of ranks and the list of words agree: each word stands at its rank, and so no
two words have the same.  A place that a word has left may keep its text without belonging to
anybody, and when the word comes back it gets another place, behind all others.  A call leaves
the ranks of the words that it does not name.
-/

namespace Gamebook

/-- A call that changes a dictionary. -/
inductive DictionaryCall where
  | insert (word : String)
  | replace (old new : String)

/-- Whether the call is about a word, in the form in which words are compared. -/
def DictionaryCall.Names (word : String) : DictionaryCall → Prop
  | insert new => normalize word = normalize new
  | replace old new => normalize word = normalize old ∨ normalize word = normalize new

namespace Dictionary

variable {dictionary next : Dictionary} {word key : String}

def apply (dictionary : Dictionary) : DictionaryCall → Dictionary
  | .insert word => dictionary.insert word
  | .replace old new => dictionary.replace old new

/-- The dictionary after calls, from an empty one on. -/
def afterCalls (calls : List DictionaryCall) : Dictionary :=
  calls.foldl apply {}

theorem ranked_afterCalls (calls : List DictionaryCall) : (afterCalls calls).Ranked := by
  induction calls using List.reverseRecOn with
  | nil => exact .empty
  | append_singleton calls call ih =>
      rw [afterCalls, List.foldl_append, ← afterCalls]
      cases call with
      | insert word => exact ih.insert word
      | replace old new => exact ih.replace old new

/-! ## Places and ranks -/

namespace Ranked

theorem lt_size (ranked : dictionary.Ranked) {rank : Nat}
    (isRank : dictionary.ranks[key]? = some rank) : rank < dictionary.size := by
  obtain ⟨inside, _⟩ := Array.getElem?_eq_some_iff.1 (ranked.word_at isRank)
  exact inside

theorem key_eq (ranked : dictionary.Ranked) {other : String} {rank : Nat}
    (isRank : dictionary.ranks[key]? = some rank)
    (alsoRank : dictionary.ranks[other]? = some rank) : key = other :=
  Option.some.inj ((ranked.word_at isRank).symm.trans (ranked.word_at alsoRank))

/-- A known word has exactly one place that belongs to it. -/
theorem contains_iff (ranked : dictionary.Ranked) :
    dictionary.contains word = true ↔
      ∃! rank, dictionary.words[rank]? = some (normalize word) ∧
        dictionary.ranks[normalize word]? = some rank := by
  rw [contains, Std.HashMap.contains_iff_mem, Std.HashMap.mem_iff_isSome_getElem?,
    Option.isSome_iff_exists]
  constructor
  · rintro ⟨rank, isRank⟩
    refine ⟨rank, ⟨ranked.word_at isRank, isRank⟩, ?_⟩
    rintro other ⟨_, alsoRank⟩
    exact Option.some.inj (alsoRank.symm.trans isRank)
  · rintro ⟨rank, ⟨_, isRank⟩, _⟩
    exact ⟨rank, isRank⟩

end Ranked

/-! ## What a call changes -/

theorem insert?_isSome_iff :
    (dictionary.insert? word).isSome = true ↔
      normalize word ≠ "" ∧ dictionary.contains word = false := by
  unfold insert? contains
  simp only
  split
  · rename_i refused
    simp only [Bool.or_eq_true, String.isEmpty_iff] at refused
    rcases refused with isEmpty | isKnown
    · simp [isEmpty]
    · simp [isKnown]
  · rename_i accepted
    simpa [String.isEmpty_iff] using accepted

/-- A word that is added gets the rank behind all others, and the others keep theirs. -/
theorem ranks_insert? (inserted : dictionary.insert? word = some next) (key : String) :
    next.ranks[key]? =
      if key = normalize word then some dictionary.size else dictionary.ranks[key]? := by
  unfold insert? at inserted
  simp only at inserted
  split at inserted
  · contradiction
  · obtain rfl := Option.some.inj inserted
    simp only [Std.HashMap.getElem?_insert, beq_iff_eq, eq_comm (a := key)]
    rfl

theorem ranks_insert_of_ne (different : key ≠ normalize word) :
    (dictionary.insert word).ranks[key]? = dictionary.ranks[key]? := by
  rw [insert]
  cases inserted : dictionary.insert? word with
  | none => rfl
  | some next => rw [Option.getD_some, ranks_insert? inserted, if_neg different]

theorem ranks_replace_of_ne {old new : String} (notOld : key ≠ normalize old)
    (notNew : key ≠ normalize new) :
    (dictionary.replace old new).ranks[key]? = dictionary.ranks[key]? := by
  unfold replace
  simp only
  split
  · simp [Std.HashMap.getElem?_erase, Ne.symm notOld]
  · split
    · simp [Std.HashMap.getElem?_insert, Std.HashMap.getElem?_erase, Ne.symm notOld,
        Ne.symm notNew]
    · rw [← normalize_normalize] at notNew
      exact ranks_insert_of_ne notNew

theorem ranks_apply_of_not_names {call : DictionaryCall} (notNamed : ¬ call.Names word) :
    (dictionary.apply call).ranks[normalize word]? = dictionary.ranks[normalize word]? := by
  cases call with
  | insert new => exact ranks_insert_of_ne notNamed
  | replace old new =>
      obtain ⟨notOld, notNew⟩ := not_or.1 notNamed
      exact ranks_replace_of_ne notOld notNew

/-- After any calls every rank is inside the list of words and leads to its word, so that no
two words have the same rank, and the known words are those with exactly one place of their
own.  A word is added exactly if it is not empty and not known; it then has the highest of
all ranks.  No call changes the rank of a word that it does not name. -/
theorem ranks_follow_calls (calls : List DictionaryCall) :
    (∀ key rank, (afterCalls calls).ranks[key]? = some rank →
      rank < (afterCalls calls).size ∧ (afterCalls calls).words[rank]? = some key) ∧
    (∀ (first second : String) rank, (afterCalls calls).ranks[first]? = some rank →
      (afterCalls calls).ranks[second]? = some rank → first = second) ∧
    (∀ word, (afterCalls calls).contains word = true ↔
      ∃! rank, (afterCalls calls).words[rank]? = some (normalize word) ∧
        (afterCalls calls).ranks[normalize word]? = some rank) ∧
    (∀ word, ((afterCalls calls).insert? word).isSome = true ↔
      normalize word ≠ "" ∧ (afterCalls calls).contains word = false) ∧
    (∀ word next, (afterCalls calls).insert? word = some next →
      ∃ highest, next.ranks[normalize word]? = some highest ∧
        ∀ key rank, key ≠ normalize word → next.ranks[key]? = some rank → rank < highest) ∧
    ∀ call word, ¬ call.Names word →
      ((afterCalls calls).apply call).ranks[normalize word]? =
        (afterCalls calls).ranks[normalize word]? := by
  have ranked := ranked_afterCalls calls
  refine ⟨?_, ?_, fun word => ranked.contains_iff, fun word => insert?_isSome_iff, ?_,
    fun call word notNamed => ranks_apply_of_not_names notNamed⟩
  · intro key rank isRank
    exact ⟨ranked.lt_size isRank, ranked.word_at isRank⟩
  · intro first second rank isRank alsoRank
    exact ranked.key_eq isRank alsoRank
  · intro word next inserted
    refine ⟨(afterCalls calls).size, by rw [ranks_insert? inserted, if_pos rfl], ?_⟩
    intro key rank different isRank
    rw [ranks_insert? inserted, if_neg different] at isRank
    exact ranked.lt_size isRank

/-- A word that has gone in favour of another spelling leaves its text at the first place.  When
it comes back, that place still belongs to nobody, and the other spelling keeps its rank. -/
theorem ranks_follow_calls_of_returning_word :
    let calls : List DictionaryCall :=
      [.insert "color", .insert "colour", .replace "Color" "colour"]
    (afterCalls calls).words[0]? = some "color" ∧
      (afterCalls calls).contains "color" = false ∧
      ∃ next, (afterCalls calls).insert? "color" = some next ∧
        (∃ highest, next.ranks["color"]? = some highest ∧
          ∀ key rank, key ≠ "color" → next.ranks[key]? = some rank → rank < highest) ∧
        ¬ (DictionaryCall.insert "color").Names "colour" ∧
        ((afterCalls calls).apply (.insert "color")).ranks["colour"]? =
          (afterCalls calls).ranks["colour"]? := by
  intro calls
  have color : normalize "color" = "color" := by decide +kernel
  have capital : normalize "Color" = "color" := by decide +kernel
  have colour : normalize "colour" = "colour" := by decide +kernel
  have dictionaryEq : afterCalls calls =
      ⟨(({} : Std.HashMap String Nat).insert "color" 0 |>.insert "colour" 1).erase "color",
        #["color", "colour"]⟩ := by
    simp [calls, afterCalls, apply, insert, insert?, replace, color, capital, colour]
  have isGone : (afterCalls calls).contains "color" = false := by
    simp [dictionaryEq, contains, color]
  obtain ⟨_, _, _, accepted, highest, kept⟩ := ranks_follow_calls calls
  obtain ⟨next, inserted⟩ := Option.isSome_iff_exists.1
    ((accepted "color").2 ⟨by rw [color]; decide, isGone⟩)
  have notNamed : ¬ (DictionaryCall.insert "color").Names "colour" := by
    simp [DictionaryCall.Names, color, colour]
  have isHighest := highest "color" next inserted
  have isKept := kept (.insert "color") "colour" notNamed
  rw [color] at isHighest
  rw [colour] at isKept
  exact ⟨by rw [dictionaryEq]; rfl, isGone, next, inserted, isHighest, notNamed, isKept⟩

end Dictionary

end Gamebook
