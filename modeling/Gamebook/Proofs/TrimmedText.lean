import Gamebook.Text.Blank

/-!
# Texts without their endings

Trimming cuts a text in two: what is kept, which is empty or ends with a character that
stays, and an ending in which every character is dropped.  No other cut of the text is
like this.
-/

namespace Gamebook

variable {discard : Char → Bool}

theorem trimEndChars_of_all {text : List Char} (all : ∀ char ∈ text, discard char = true) :
    trimEndChars discard text = [] := by
  induction text with
  | nil => rfl
  | cons char rest ih =>
      obtain ⟨first, others⟩ := List.forall_mem_cons.1 all
      rw [trimEndChars, ih others]
      exact if_pos first

theorem trimEndChars_append_of_all (text : List Char) {ending : List Char}
    (all : ∀ char ∈ ending, discard char = true) :
    trimEndChars discard (text ++ ending) = trimEndChars discard text := by
  induction text with
  | nil => exact trimEndChars_of_all all
  | cons char rest ih => rw [List.cons_append, trimEndChars, ih, trimEndChars]

theorem trimEndChars_concat (text : List Char) {last : Char} (kept : discard last = false) :
    trimEndChars discard (text ++ [last]) = text ++ [last] := by
  induction text with
  | nil => simp [trimEndChars, kept]
  | cons char rest ih =>
      rw [List.cons_append, trimEndChars, ih]
      cases rest <;> rfl

theorem trimEndChars_trimEndChars (text : List Char) :
    trimEndChars discard (trimEndChars discard text) = trimEndChars discard text := by
  induction text with
  | nil => rfl
  | cons char rest ih =>
      rw [trimEndChars]
      cases keptEq : trimEndChars discard rest with
      | nil =>
          by_cases dropped : discard char = true
          · simp [dropped, trimEndChars]
          · simp [dropped, trimEndChars]
      | cons first kept =>
          rw [keptEq] at ih
          simp only
          rw [trimEndChars, ih]

theorem last_trimEndChars (text : List Char) :
    ∀ char ∈ (trimEndChars discard text).getLast?, discard char = false := by
  induction text with
  | nil => simp [trimEndChars]
  | cons first rest ih =>
      rw [trimEndChars]
      cases keptEq : trimEndChars discard rest with
      | nil => by_cases dropped : discard first = true <;> simp [dropped]
      | cons second kept =>
          rw [keptEq] at ih
          simpa using ih

/-- What trimming takes away would all be dropped. -/
theorem exists_dropped_ending (discard : Char → Bool) (text : List Char) :
    ∃ ending, trimEndChars discard text ++ ending = text ∧
      ∀ char ∈ ending, discard char = true := by
  induction text with
  | nil => exact ⟨[], rfl, by simp⟩
  | cons first rest ih =>
      obtain ⟨ending, restEq, dropped⟩ := ih
      rw [trimEndChars]
      split
      · rename_i nothingKept
        rw [nothingKept, List.nil_append] at restEq
        subst restEq
        by_cases firstDropped : discard first = true
        · exact ⟨first :: ending, by simp [firstDropped],
            List.forall_mem_cons.2 ⟨firstDropped, dropped⟩⟩
        · exact ⟨ending, by simp [firstDropped], dropped⟩
      · exact ⟨ending, by simp [restEq], dropped⟩

theorem trimEndChars_eq_nil_iff {text : List Char} :
    trimEndChars discard text = [] ↔ ∀ char ∈ text, discard char = true := by
  refine ⟨?_, trimEndChars_of_all⟩
  intro nothingKept
  obtain ⟨ending, textEq, dropped⟩ := exists_dropped_ending discard text
  rw [nothingKept, List.nil_append] at textEq
  rwa [← textEq]

end Gamebook
