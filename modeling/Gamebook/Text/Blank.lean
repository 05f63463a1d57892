/-!
# Blank characters

`isBlank` is the Unicode property White_Space.  Words of a command end at any of these, not only
at spaces and tabs.
-/

namespace Gamebook

def isBlank (char : Char) : Bool :=
  let code := char.toNat
  (0x9 ≤ code && code ≤ 0xD) || code == 0x20 || code == 0x85 || code == 0xA0 || code == 0x1680 ||
    (0x2000 ≤ code && code ≤ 0x200A) || code == 0x2028 || code == 0x2029 || code == 0x202F ||
    code == 0x205F || code == 0x3000

/-- The text without the longest ending whose characters all satisfy `discard`. -/
def trimEndChars (discard : Char → Bool) : List Char → List Char
  | [] => []
  | char :: rest =>
      match trimEndChars discard rest with
      | [] => if discard char then [] else [char]
      | kept => char :: kept

theorem trimEndChars_append (discard : Char → Bool) (text : List Char) :
    ∃ ending, trimEndChars discard text ++ ending = text := by
  induction text with
  | nil => exact ⟨[], rfl⟩
  | cons char rest ih =>
      obtain ⟨ending, endingEq⟩ := ih
      unfold trimEndChars
      split
      · rename_i restEmpty
        split
        · exact ⟨char :: rest, rfl⟩
        · exact ⟨rest, rfl⟩
      · exact ⟨ending, by simp [endingEq]⟩

/-- The text without blanks at either end. -/
def trimChars (text : List Char) : List Char :=
  trimEndChars isBlank (text.dropWhile isBlank)

def trimBlanks (text : String) : String :=
  String.ofList (trimChars text.toList)

/-- The words of a text: its maximal runs of characters that are not blank. -/
def blankSeparated : List Char → List (List Char)
  | [] => []
  | char :: rest =>
      if isBlank char then
        blankSeparated rest
      else
        match rest, blankSeparated rest with
        | next :: _, word :: words =>
            if isBlank next then [char] :: word :: words else (char :: word) :: words
        | _, words => [char] :: words

end Gamebook
