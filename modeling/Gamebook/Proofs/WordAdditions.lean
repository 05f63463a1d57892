import Gamebook.Proofs.FailedWrites
import Gamebook.Spelling.Checker

/-!
# Adding words to the user's dictionary

A word is kept when the file could be written, or when it was there before.  So whatever
happens to the disk between two calls, the dictionary in memory has the words of the file
it was loaded from and those for which a call succeeded.  A call that fails has changed
neither the words nor the file, and the next call for the word tries to write again.
-/

namespace Gamebook

namespace UserDictionary

namespace Addition

/-- The dictionary after a call that did not fail. -/
def kept? (before : UserDictionary) : Addition → Option UserDictionary
  | .known => some before
  | .added extended _ => some extended
  | .failed _ => none

/-- The files after a call. -/
def filesFrom (before : FileTree) : Addition → FileTree
  | .known => before
  | .added _ files | .failed files => files

end Addition

/-- The dictionary with a word, before it is saved. -/
def extend (dictionary : UserDictionary) (word : String) : UserDictionary :=
  { dictionary with words := dictionary.words.insert (lowerText word) }

variable {dictionary : UserDictionary} {files : FileTree} {word key : String}

theorem mem_words_extend :
    key ∈ (dictionary.extend word).words ↔ key ∈ dictionary.words ∨ lowerText word = key := by
  rw [extend, Std.TreeSet.mem_insert, Std.LawfulEqCmp.compare_eq_iff_eq, or_comm]

theorem add_of_mem (isThere : lowerText word ∈ dictionary.words) :
    dictionary.add files word = .known := by
  simp [add, isThere]

theorem add_of_not_mem (isNew : lowerText word ∉ dictionary.words) :
    dictionary.add files word =
      if ((dictionary.extend word).save files).succeeded = true then
        .added (dictionary.extend word) ((dictionary.extend word).save files).files
      else
        .failed ((dictionary.extend word).save files).files := by
  have notContained := mt Std.TreeSet.mem_iff_contains.2 isNew
  rcases attemptEq : (dictionary.extend word).save files with ⟨written, succeeded⟩
  simp only [extend] at attemptEq
  simp only [add, if_neg notContained, attemptEq]
  cases succeeded <;> rfl

/-- What a call does: the word is there, or it is written, or it cannot be written. -/
theorem add_cases (dictionary : UserDictionary) (files : FileTree) (word : String) :
    (lowerText word ∈ dictionary.words ∧ dictionary.add files word = .known) ∨
      lowerText word ∉ dictionary.words ∧
        (((dictionary.extend word).save files).succeeded = true ∧
            dictionary.add files word =
              .added (dictionary.extend word) ((dictionary.extend word).save files).files ∨
          ((dictionary.extend word).save files).succeeded = false ∧
            dictionary.add files word = .failed ((dictionary.extend word).save files).files) := by
  by_cases isThere : lowerText word ∈ dictionary.words
  · exact .inl ⟨isThere, add_of_mem isThere⟩
  · refine .inr ⟨isThere, ?_⟩
    rw [add_of_not_mem isThere]
    cases succeeded : ((dictionary.extend word).save files).succeeded with
    | true => exact .inl ⟨rfl, if_pos rfl⟩
    | false => exact .inr ⟨rfl, if_neg (by simp)⟩

/-- What a call that did not fail has done. -/
theorem kept?_cases {kept : UserDictionary}
    (isKept : (dictionary.add files word).kept? dictionary = some kept) :
    (lowerText word ∈ dictionary.words ∧ kept = dictionary ∧
        (dictionary.add files word).filesFrom files = files) ∨
      ((dictionary.extend word).save files).succeeded = true ∧ kept = dictionary.extend word ∧
        (dictionary.add files word).filesFrom files =
          ((dictionary.extend word).save files).files := by
  rcases dictionary.add_cases files word with
    ⟨isThere, callEq⟩ | ⟨_, ⟨succeeded, callEq⟩ | ⟨_, callEq⟩⟩
  · rw [callEq] at isKept ⊢
    exact .inl ⟨isThere, (Option.some.inj isKept).symm, rfl⟩
  · rw [callEq] at isKept ⊢
    exact .inr ⟨succeeded, (Option.some.inj isKept).symm, rfl⟩
  · rw [callEq] at isKept
    cases isKept

theorem mem_words_of_kept? {kept : UserDictionary}
    (isKept : (dictionary.add files word).kept? dictionary = some kept) :
    key ∈ kept.words ↔ key ∈ dictionary.words ∨ lowerText word = key := by
  rcases kept?_cases isKept with ⟨isThere, rfl, _⟩ | ⟨_, rfl, _⟩
  · refine ⟨.inl, ?_⟩
    rintro (wasThere | rfl)
    · exact wasThere
    · exact isThere
  · exact mem_words_extend

end UserDictionary

/-! ## Calls one after the other -/

/-- A call that adds a word, and the files as it finds them. -/
structure AddCall where
  files : FileTree
  word : String

namespace UserDictionary

variable {dictionary : UserDictionary} {key : String}

def after (dictionary : UserDictionary) (call : AddCall) : UserDictionary :=
  ((dictionary.add call.files call.word).kept? dictionary).getD dictionary

/-- The words of the calls that did not fail. -/
def accepted (dictionary : UserDictionary) : List AddCall → List String
  | [] => []
  | call :: rest =>
      if ((dictionary.add call.files call.word).kept? dictionary).isSome then
        call.word :: (dictionary.after call).accepted rest
      else
        (dictionary.after call).accepted rest

theorem path_load {start : FileTree} {path : String} {loaded : UserDictionary}
    (isLoaded : load start path = .ok loaded) : loaded.path = some path := by
  unfold load at isLoaded
  split at isLoaded
  · obtain rfl := Except.ok.inj isLoaded
    rfl
  · obtain rfl := Except.ok.inj isLoaded
    rfl
  · cases isLoaded

theorem save_eq_put {path : String} (pathEq : dictionary.path = some path) (files : FileTree) :
    dictionary.save files = files.put ⟨path⟩ (.text dictionary.render) := by
  rw [save, pathEq]

theorem fileAt?_of_added {path : String} (pathEq : dictionary.path = some path)
    (succeeded : (dictionary.save files).succeeded = true) :
    (dictionary.save files).files.fileAt? ⟨path⟩ = some (.text dictionary.render) := by
  rw [save_eq_put pathEq] at succeeded ⊢
  exact FileTree.read_eq_ok_iff.1 (files.read_put ⟨path⟩ _ succeeded)

end UserDictionary

end Gamebook
