import Mathlib.Data.List.Infix
import Gamebook.Proofs.AcceptedReports
import Gamebook.Proofs.ExportLookup

/-!
# Words that come back from their file

A file of the user's dictionary has one word a line.  Reading it trims each line and lower-cases
it as a whole, so what was written is read back as long as every word fits on a line.  A word that
is looked up is brought into the form in which words are compared instead: a word of the file is
known unless the two forms differ for it.
-/

namespace Gamebook

/-! ## The entries of a file -/

namespace Dictionary

variable {text : String} {line rest : List Char}

theorem textLines_eq (text : String) :
    textLines text =
      ((text.toList.splitOn '\n').dropLast.map fun line =>
        if line.getLast? = some '\r' then line.dropLast else line) ++
      (text.toList.splitOn '\n').getLast?.toList.filter (!·.isEmpty) := by
  rw [textLines, Fragment.map_chars_splitOn, List.splitOn_eq_splitOnP]

theorem textLines_cons (oneLine : '\n' ∉ line) (noReturn : line.getLast? ≠ some '\r') :
    textLines (String.ofList (line ++ '\n' :: rest)) =
      line :: textLines (String.ofList rest) := by
  have partsEq : (line ++ '\n' :: rest).splitOn '\n' = line :: rest.splitOn '\n' := by
    rw [List.splitOn_append_cons_self, List.splitOn_eq_singleton oneLine]
    rfl
  have more : rest.splitOn '\n' ≠ [] := List.splitOn_ne_nil '\n' rest
  rw [textLines_eq, textLines_eq, String.toList_ofList, String.toList_ofList, partsEq,
    List.dropLast_cons_of_ne_nil more, List.map_cons, if_neg noReturn, List.cons_append,
    List.getLast?_cons_of_ne_nil more]

theorem not_mem_of_mem_textLines (isLine : line ∈ textLines text) : '\n' ∉ line := by
  have oneLine : ∀ part ∈ text.toList.splitOn '\n', '\n' ∉ part := by
    intro part isPart isFeed
    rw [List.splitOn_eq_splitOnP, ← Fragment.map_chars_splitOn _ 0] at isPart
    obtain ⟨fragment, isFragment, rfl⟩ := List.mem_map.1 isPart
    simpa using Fragment.not_border_of_mem_splitOn isFragment isFeed
  rw [textLines_eq, List.mem_append, List.mem_map] at isLine
  rcases isLine with ⟨part, isPart, rfl⟩ | isLast
  · have partOneLine := oneLine part (List.mem_of_mem_dropLast isPart)
    split
    · exact fun isFeed => partOneLine (List.mem_of_mem_dropLast isFeed)
    · exact partOneLine
  · exact oneLine line (List.mem_of_getLast? (by simpa using (List.mem_filter.1 isLast).1))

end Dictionary

namespace UserDictionary

variable {text : String} {key : String}

/-- The words of a file, as they are written there. -/
def entries (text : String) : List String :=
  (((Dictionary.textLines text).map trimChars).filter (!·.isEmpty)).map String.ofList

theorem wordsOfText_eq (text : String) :
    wordsOfText text = ((entries text).map lowerText).foldl (·.insert ·) {} := by
  rw [entries, List.map_map, List.foldl_map, List.foldl_filter, List.foldl_map, wordsOfText]
  congr 1
  funext words line
  cases isEmpty : (trimChars line).isEmpty <;> simp [isEmpty]

theorem mem_wordsOfText :
    key ∈ wordsOfText text ↔ ∃ entry ∈ entries text, lowerText entry = key := by
  simp [wordsOfText_eq, mem_foldl_insert]

/-- A word that is all of a trimmed line, as far as its ends go. -/
structure IsEntry (word : String) : Prop where
  notEmpty : word.toList ≠ []
  bareEnds : HasBareEnds word.toList

theorem isEntry_trimChars {line : List Char} (notEmpty : trimChars line ≠ []) :
    IsEntry (String.ofList (trimChars line)) := by
  constructor
  · simpa using notEmpty
  · simpa using hasBareEnds_trimChars line

theorem IsEntry.lowered {word lower : String} (isEntry : IsEntry word)
    (isLowered : Lowered word.toList lower.toList) : IsEntry lower where
  notEmpty := mt isLowered.eq_nil_iff.1 isEntry.notEmpty
  bareEnds := isLowered.hasBareEnds isEntry.bareEnds

theorem mem_entries_iff {entry : String} :
    entry ∈ entries text ↔
      ∃ line ∈ Dictionary.textLines text,
        trimChars line ≠ [] ∧ String.ofList (trimChars line) = entry := by
  rw [entries, List.filter_map, List.map_map, List.mem_map]
  simp only [List.mem_filter, Function.comp_apply, Bool.not_eq_true', List.isEmpty_eq_false_iff,
    and_assoc]

theorem entries_spec {entry : String} (isEntry : entry ∈ entries text) :
    IsEntry entry ∧ '\n' ∉ entry.toList := by
  obtain ⟨line, isLine, notEmpty, rfl⟩ := mem_entries_iff.1 isEntry
  refine ⟨isEntry_trimChars notEmpty, ?_⟩
  rw [String.toList_ofList]
  intro isFeed
  exact Dictionary.not_mem_of_mem_textLines isLine ((trimChars_sublist line).mem isFeed)

theorem wordsOfText_spec {word : String} (isWord : word ∈ wordsOfText text) :
    IsEntry word ∧ lowerText word = word ∧ '\n' ∉ word.toList := by
  obtain ⟨entry, isListed, rfl⟩ := mem_wordsOfText.1 isWord
  obtain ⟨isEntry, oneLine⟩ := entries_spec isListed
  have isLowered := lowered_lowerText entry
  exact ⟨isEntry.lowered isLowered, lowerText_lowerText entry,
    mt (isLowered.mem_iff_of_isBlank (by decide)).1 oneLine⟩

/-! ## Writing and reading back -/

theorem entries_line {word rest : String} (isEntry : IsEntry word) (oneLine : '\n' ∉ word.toList) :
    entries (word ++ "\n" ++ rest) = word :: entries rest := by
  have noReturn : word.toList.getLast? ≠ some '\r' := by
    intro isLast
    have bare := isEntry.bareEnds.2 '\r' isLast
    revert bare
    decide
  have textEq : word ++ "\n" ++ rest = String.ofList (word.toList ++ '\n' :: rest.toList) := by
    simp [← String.toList_inj]
  rw [entries, textEq, Dictionary.textLines_cons oneLine noReturn, String.ofList_toList,
    List.map_cons, trimChars_eq_self isEntry.bareEnds, List.filter_cons_of_pos, List.map_cons,
    String.ofList_toList]
  · rfl
  · simpa using isEntry.notEmpty

/-- Words that fit on a line each are the entries of the file they are written to. -/
theorem entries_join {words : List String}
    (fit : ∀ word ∈ words, IsEntry word ∧ '\n' ∉ word.toList) :
    entries (String.join (words.map (· ++ "\n"))) = words := by
  induction words with
  | nil => decide +kernel
  | cons word rest ih =>
      obtain ⟨⟨isEntry, oneLine⟩, restFit⟩ := List.forall_mem_cons.1 fit
      rw [List.map_cons, String.join_cons, entries_line isEntry oneLine, ih restFit]

/-- A dictionary is read back as it was written exactly if no word of it has a line feed. -/
theorem wordsOfText_render_iff {dictionary : UserDictionary}
    (areEntries : ∀ word ∈ dictionary.words, IsEntry word ∧ lowerText word = word) :
    (∀ key, key ∈ wordsOfText dictionary.render ↔ key ∈ dictionary.words) ↔
      ∀ word ∈ dictionary.words, '\n' ∉ word.toList := by
  constructor
  · intro same word isWord
    exact (wordsOfText_spec ((same word).2 isWord)).2.2
  · intro oneLine key
    have fit : ∀ word ∈ dictionary.words.toList, IsEntry word ∧ '\n' ∉ word.toList := by
      intro word isListed
      have isWord := Std.TreeSet.mem_toList.1 isListed
      exact ⟨(areEntries word isWord).1, oneLine word isWord⟩
    rw [mem_wordsOfText, render, entries_join fit]
    constructor
    · rintro ⟨word, isListed, rfl⟩
      have isWord := Std.TreeSet.mem_toList.1 isListed
      rwa [(areEntries word isWord).2]
    · intro isWord
      exact ⟨key, Std.TreeSet.mem_toList.2 isWord, (areEntries key isWord).2⟩

theorem load_of_content {files : FileTree} {path : String}
    (content : files.read ⟨path⟩ = .ok text) :
    load files path = .ok ⟨some path, wordsOfText text⟩ := by
  rw [load, content]

end UserDictionary

/-! ## Looking up the words of a file -/

namespace SpellChecker

/-- A checker with the words of a file knows every one in which no curly apostrophe stands and
no capital sigma ends a word.  Altogether it knows, of the file, the words that it compares like
an entry in lower case. -/
theorem file_words_known (files : FileTree) (path text : String) (checker : SpellChecker)
    (content : files.read ⟨path⟩ = .ok text)
    (isLoaded : UserDictionary.load files path = .ok checker.user) :
    (∀ entry ∈ UserDictionary.entries text,
      '’' ∉ entry.toList → ¬ EndsInSigma [] entry.toList → checker.isKnown entry = true) ∧
    ∀ word, checker.isKnown word = true ↔
      checker.dictionary.containsInflected (normalize word) = true ∨
      normalize word ∈ checker.session ∨
      ∃ entry ∈ UserDictionary.entries text, lowerText entry = normalize word := by
  have wordsEq : checker.user.words = UserDictionary.wordsOfText text := by
    rw [UserDictionary.load_of_content content] at isLoaded
    rw [← Except.ok.inj isLoaded]
  have knownIff : ∀ word, checker.isKnown word = true ↔
      checker.dictionary.containsInflected (normalize word) = true ∨
      normalize word ∈ checker.session ∨
      ∃ entry ∈ UserDictionary.entries text, lowerText entry = normalize word := by
    intro word
    rw [isKnown_iff, wordsEq, UserDictionary.mem_wordsOfText]
  refine ⟨fun entry isEntry noCurly noSigma => (knownIff entry).2 ?_, knownIff⟩
  exact .inr (.inr ⟨entry, isEntry, lowerText_eq_normalize_iff.2 ⟨noCurly, noSigma⟩⟩)

/-- Words in capitals, with a straight apostrophe and with a sigma at the beginning. -/
theorem file_words_known_in_capitals :
    let files : FileTree := { entries := [(["user.txt"], .text " ZORBLAX'S\nΣΟΦΙΑ\r\n")] }
    let user : UserDictionary :=
      ⟨some "/user.txt", UserDictionary.wordsOfText " ZORBLAX'S\nΣΟΦΙΑ\r\n"⟩
    let checker : SpellChecker := { dictionary := .insert {} "the", user }
    (files.read ⟨"/user.txt"⟩ = .ok " ZORBLAX'S\nΣΟΦΙΑ\r\n" ∧
      UserDictionary.load files "/user.txt" = .ok user) ∧
    checker.isKnown "ZORBLAX'S" = true ∧ checker.isKnown "ΣΟΦΙΑ" = true := by
  intro files user checker
  have content : files.read ⟨"/user.txt"⟩ = .ok " ZORBLAX'S\nΣΟΦΙΑ\r\n" := by rfl
  have isLoaded := UserDictionary.load_of_content content
  obtain ⟨known, _⟩ := file_words_known files "/user.txt" _ checker content isLoaded
  have sameForms : ∀ entry ∈ ["ZORBLAX'S", "ΣΟΦΙΑ"],
      entry ∈ UserDictionary.entries " ZORBLAX'S\nΣΟΦΙΑ\r\n" ∧
        lowerText entry = normalize entry := by
    decide +kernel
  have areKnown : ∀ entry ∈ ["ZORBLAX'S", "ΣΟΦΙΑ"], checker.isKnown entry = true := by
    intro entry isListed
    obtain ⟨isEntry, sameForm⟩ := sameForms entry isListed
    obtain ⟨noCurly, noSigma⟩ := lowerText_eq_normalize_iff.1 sameForm
    exact known entry isEntry noCurly noSigma
  exact ⟨⟨content, isLoaded⟩, areKnown _ (by simp), areKnown _ (by simp)⟩

/-- A curly apostrophe in a word of the file, and a capital sigma at the end of one: neither of
them is known. -/
theorem file_words_unknown_in_other_form :
    let files : FileTree := { entries := [(["user.txt"], .text "o’zorb\nΟΔΟΣ\n")] }
    let user : UserDictionary :=
      ⟨some "/user.txt", UserDictionary.wordsOfText "o’zorb\nΟΔΟΣ\n"⟩
    let checker : SpellChecker := { dictionary := .insert {} "the", user }
    (UserDictionary.load files "/user.txt" = .ok user ∧
      UserDictionary.entries "o’zorb\nΟΔΟΣ\n" = ["o’zorb", "ΟΔΟΣ"]) ∧
    checker.isKnown "o’zorb" = false ∧ checker.isKnown "ΟΔΟΣ" = false := by
  intro files user checker
  have isLoaded : UserDictionary.load files "/user.txt" = .ok user := by rfl
  have entriesEq : UserDictionary.entries "o’zorb\nΟΔΟΣ\n" = ["o’zorb", "ΟΔΟΣ"] := by
    decide +kernel
  have unknownOtherwise : ∀ entry ∈ ["o’zorb", "ΟΔΟΣ"],
      ({ dictionary := .insert {} "the" } : SpellChecker).isKnown entry = false := by
    simp only [List.forall_mem_cons]
    refine ⟨?_, ?_, by simp⟩ <;>
      exact isKnown_of_word (by decide) (by decide +kernel) (by decide +kernel)
  have notInFile : ∀ entry ∈ ["o’zorb", "ΟΔΟΣ"], normalize entry ∉ user.words := by
    intro entry isListed isWord
    rw [UserDictionary.mem_wordsOfText, entriesEq] at isWord
    revert entry
    decide +kernel
  have areUnknown : ∀ entry ∈ ["o’zorb", "ΟΔΟΣ"], checker.isKnown entry = false := by
    intro entry isListed
    rw [Bool.eq_false_iff, ne_eq, isKnown_iff]
    have unknown := unknownOtherwise entry isListed
    rw [Bool.eq_false_iff, ne_eq, isKnown_iff] at unknown
    rintro (inDictionary | inSession | inFile)
    · exact unknown (.inl inDictionary)
    · exact unknown (.inr (.inl inSession))
    · exact notInFile entry isListed inFile
  exact ⟨⟨isLoaded, entriesEq⟩, areUnknown _ (by simp), areUnknown _ (by simp)⟩

end SpellChecker

end Gamebook
