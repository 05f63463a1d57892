import Gamebook.Spelling.Word
import Mathlib.Data.List.TakeWhile

/-!
# Scanning run by run

Prose is scanned character by character, and a word is noted when its run ends.  What
comes of it is said by a recursion that goes from run to run: it passes a gap, takes the
whole run behind it, and goes on behind the run.
-/

namespace Gamebook

/-- Whether a sentence starts behind a gap between words, if `starts` tells so of its begin. -/
def sentenceAfter (starts : Bool) (gap : List Char) : Bool :=
  gap.foldl (fun starts char => endsSentence char || (isNeutral char && starts)) starts

namespace Word

/-- Behind a gap stands a character of the next run, so dropping both shortens the text. -/
theorem length_dropWhile_dropWhile_lt {keep : Char → Bool} {text : List Char}
    (notEmpty : text.dropWhile (!keep ·) ≠ []) :
    ((text.dropWhile (!keep ·)).dropWhile keep).length < text.length := by
  have kept := List.head_dropWhile_not (!keep ·) notEmpty
  have bounded := (List.dropWhile_suffix (!keep ·) (l := text)).length_le
  cases restEq : text.dropWhile (!keep ·) with
  | nil => exact absurd restEq notEmpty
  | cons first rest =>
      simp only [restEq, List.head_cons, Bool.not_eq_false'] at kept bounded
      have shorter := (List.dropWhile_suffix keep (l := rest)).length_le
      simp only [List.dropWhile_cons, kept, if_true, List.length_cons] at bounded ⊢
      omega

/-- The words of prose, run by run. -/
def byRuns (startsSentence : Bool) (prose : Fragment) : List Word :=
  let rest := prose.dropWhile (!isWordChar ·)
  if rest.isEmpty then
    []
  else
    let gap := prose.takeWhile (!isWordChar ·)
    (ofRun? (sentenceAfter startsSentence gap.chars) (rest.takeWhile isWordChar)).toList ++
      byRuns false (rest.dropWhile isWordChar)
termination_by prose.chars.length
decreasing_by
  rename_i notEmpty
  exact length_dropWhile_dropWhile_lt
    (by simpa [rest, Fragment.isEmpty, Fragment.dropWhile] using notEmpty)

namespace Scan

/-- In a gap only the start of a sentence is kept track of. -/
theorem foldl_read_gap {gap : List Char} (plain : ∀ char ∈ gap, isWordChar char = false)
    (start : Nat) (startsSentence : Bool) (words : List Word) :
    gap.foldl read ⟨⟨start, []⟩, startsSentence, words⟩ =
      ⟨⟨start + byteSize gap, []⟩, sentenceAfter startsSentence gap, words⟩ := by
  induction gap generalizing start startsSentence with
  | nil => rfl
  | cons char rest ih =>
      obtain ⟨isPlain, restPlain⟩ := List.forall_mem_cons.1 plain
      have first : read ⟨⟨start, []⟩, startsSentence, words⟩ char =
          ⟨⟨start + char.utf8Size, []⟩,
            endsSentence char || (isNeutral char && startsSentence), words⟩ := by
        simp [read, isPlain, endRun, Fragment.isEmpty, Fragment.stop]
      rw [List.foldl_cons, first, ih restPlain, byteSize_cons, Nat.add_assoc]
      rfl

theorem foldl_read_run {run : List Char} (isProse : ∀ char ∈ run, isWordChar char = true)
    (state : Scan) :
    run.foldl read state = { state with run := ⟨state.run.start, state.run.chars ++ run⟩ } := by
  induction run generalizing state with
  | nil => simp
  | cons char rest ih =>
      obtain ⟨isWord, restProse⟩ := List.forall_mem_cons.1 isProse
      rw [List.foldl_cons, ih restProse]
      simp [read, isWord]

theorem endRun_endRun (state : Scan) : state.endRun.endRun = state.endRun := by
  unfold endRun
  split
  · rfl
  · rfl

/-- A run may be ended as soon as it cannot be made longer. -/
theorem endRun_foldl_read {after : List Char}
    (stops : ∀ char ∈ after.head?, isWordChar char = false) (state : Scan) :
    (after.foldl read state).endRun = (after.foldl read state.endRun).endRun := by
  cases after with
  | nil => exact (endRun_endRun state).symm
  | cons char rest =>
      have notWord := stops char rfl
      simp [read, notWord, endRun_endRun]

theorem words_foldl_read (startsSentence : Bool) (prose : Fragment) (words : List Word) :
    (prose.chars.foldl read ⟨⟨prose.start, []⟩, startsSentence, words⟩).endRun.words =
      words ++ byRuns startsSentence prose := by
  fun_induction byRuns startsSentence prose generalizing words with
  | case1 startsSentence prose rest isEmpty =>
      have plain : ∀ char ∈ prose.chars, isWordChar char = false := by
        simpa [rest, Fragment.isEmpty, Fragment.dropWhile] using isEmpty
      rw [foldl_read_gap plain, List.append_nil]
      rfl
  | case2 startsSentence prose rest notEmpty gap ih =>
      let run := rest.takeWhile isWordChar
      let after := rest.dropWhile isWordChar
      have parts : prose.chars = gap.chars ++ (run.chars ++ after.chars) := by
        simp [gap, run, after, rest, Fragment.takeWhile, Fragment.dropWhile,
          List.takeWhile_append_dropWhile]
      have plain : ∀ char ∈ gap.chars, isWordChar char = false := by
        intro char inGap
        simpa using List.mem_takeWhile_imp inGap
      have isProse : ∀ char ∈ run.chars, isWordChar char = true :=
        List.all_eq_true.1 List.all_takeWhile
      have stops : ∀ char ∈ after.chars.head?, isWordChar char = false := by
        intro char isHead
        have behind := List.head?_dropWhile_not isWordChar rest.chars
        have headEq : (rest.chars.dropWhile isWordChar).head? = some char := isHead
        rw [headEq] at behind
        exact behind
      have runNotEmpty : run.chars ≠ [] := by
        have restNotEmpty : prose.chars.dropWhile (!isWordChar ·) ≠ [] := by
          simpa [rest, Fragment.isEmpty, Fragment.dropWhile] using notEmpty
        have isWord := List.head_dropWhile_not (!isWordChar ·) restNotEmpty
        obtain ⟨first, others, restEq⟩ := List.exists_cons_of_ne_nil restNotEmpty
        simp only [restEq, List.head_cons, Bool.not_eq_false'] at isWord
        simp [run, rest, Fragment.takeWhile, Fragment.dropWhile, restEq, isWord]
      have ended : endRun ⟨run, sentenceAfter startsSentence gap.chars, words⟩ =
          ⟨⟨after.start, []⟩, false,
            words ++ (ofRun? (sentenceAfter startsSentence gap.chars) run).toList⟩ :=
        if_neg (by simpa [Fragment.isEmpty] using runNotEmpty)
      calc (prose.chars.foldl read ⟨⟨prose.start, []⟩, startsSentence, words⟩).endRun.words
          = (after.chars.foldl read
              ⟨run, sentenceAfter startsSentence gap.chars, words⟩).endRun.words := by
            rw [parts, List.foldl_append, List.foldl_append, foldl_read_gap plain,
              foldl_read_run isProse]
            rfl
        _ = (after.chars.foldl read ⟨⟨after.start, []⟩, false, words ++
              (ofRun? (sentenceAfter startsSentence gap.chars) run).toList⟩).endRun.words := by
            rw [endRun_foldl_read stops, ended]
        _ = words ++ ((ofRun? (sentenceAfter startsSentence gap.chars) run).toList ++
              byRuns false after) := by
            rw [ih, List.append_assoc]

end Scan

/-- Reading the characters one by one finds the words run by run. -/
theorem scan_eq_byRuns (startsSentence : Bool) (prose : Fragment) :
    scan startsSentence prose = byRuns startsSentence prose :=
  Scan.words_foldl_read startsSentence prose []

end Word

end Gamebook
