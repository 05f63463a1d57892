import Gamebook.Text.Span
import Gamebook.Text.Blank

/-!
# Fragments

A fragment is a stretch of text that knows the byte offset at which it starts.  Every analysis of
a scene cuts fragments into smaller ones, so that spans are never computed apart from the text
they cover: `Fragment.Within` says that a fragment is a part of another, and each way of cutting
keeps it.
-/

namespace Gamebook

/-- A stretch of text and the byte offset of its first character. -/
structure Fragment where
  start : Nat
  chars : List Char
deriving DecidableEq, Repr, Inhabited

namespace Fragment

/-- The byte offset just behind the fragment. -/
def stop (fragment : Fragment) : Nat :=
  fragment.start + byteSize fragment.chars

def span (fragment : Fragment) : Span :=
  ⟨fragment.start, fragment.stop⟩

def text (fragment : Fragment) : String :=
  String.ofList fragment.chars

def isEmpty (fragment : Fragment) : Bool :=
  fragment.chars.isEmpty

def drop (fragment : Fragment) (count : Nat) : Fragment :=
  ⟨fragment.start + byteSize (fragment.chars.take count), fragment.chars.drop count⟩

def take (fragment : Fragment) (count : Nat) : Fragment :=
  ⟨fragment.start, fragment.chars.take count⟩

/-- The longest beginning whose characters all satisfy `keep`. -/
def takeWhile (fragment : Fragment) (keep : Char → Bool) : Fragment :=
  ⟨fragment.start, fragment.chars.takeWhile keep⟩

def dropWhile (fragment : Fragment) (discard : Char → Bool) : Fragment :=
  ⟨fragment.start + byteSize (fragment.chars.takeWhile discard), fragment.chars.dropWhile discard⟩

def trimStart (fragment : Fragment) : Fragment :=
  fragment.dropWhile isBlank

def trimEnd (fragment : Fragment) : Fragment :=
  ⟨fragment.start, trimEndChars isBlank fragment.chars⟩

/-- The first word and what follows it, both without leading blanks; nothing when the fragment is
blank. -/
def splitWord? (fragment : Fragment) : Option (Fragment × Fragment) :=
  let trimmed := fragment.trimStart
  if trimmed.isEmpty then
    none
  else
    some (trimmed.takeWhile (!isBlank ·), (trimmed.dropWhile (!isBlank ·)).trimStart)

/-- The fragment cut at every character that satisfies `isBorder`; the borders themselves are left
out.  There is always at least one part. -/
def splitOn (isBorder : Char → Bool) : Nat → List Char → List Fragment
  | start, [] => [⟨start, []⟩]
  | start, char :: rest =>
      if isBorder char then
        ⟨start, []⟩ :: splitOn isBorder (start + char.utf8Size) rest
      else
        match splitOn isBorder (start + char.utf8Size) rest with
        | [] => [⟨start, [char]⟩]
        | first :: others => ⟨start, char :: first.chars⟩ :: others

def split (fragment : Fragment) (isBorder : Char → Bool) : List Fragment :=
  splitOn isBorder fragment.start fragment.chars

theorem length_le_of_mem_splitOn {isBorder : Char → Bool} {start : Nat}
    {text : List Char} {part : Fragment} (isPart : part ∈ splitOn isBorder start text) :
    part.chars.length ≤ text.length := by
  induction text generalizing start part with
  | nil =>
      simp only [splitOn, List.mem_singleton] at isPart
      simp [isPart]
  | cons char rest ih =>
      rw [splitOn] at isPart
      split at isPart
      · rcases List.mem_cons.1 isPart with rfl | later
        · simp
        · exact Nat.le_succ_of_le (ih later)
      · split at isPart
        · simp only [List.mem_singleton] at isPart
          simp [isPart]
        · rename_i first others splitEq
          rcases List.mem_cons.1 isPart with rfl | later
          · have := @ih (start + char.utf8Size) first (by simp [splitEq])
            simp only [List.length_cons]
            omega
          · exact Nat.le_succ_of_le (ih (by rw [splitEq]; exact List.mem_cons_of_mem _ later))

/-- `part.Within whole`: the part's characters stand in the whole at the part's offset. -/
def Within (part whole : Fragment) : Prop :=
  ∃ before after, whole.chars = before ++ part.chars ++ after ∧
    part.start = whole.start + byteSize before

theorem Within.refl (fragment : Fragment) : fragment.Within fragment :=
  ⟨[], [], by simp, by simp⟩

theorem Within.trans {inner middle outer : Fragment}
    (innerWithin : inner.Within middle) (middleWithin : middle.Within outer) :
    inner.Within outer := by
  obtain ⟨before, after, charsEq, startEq⟩ := innerWithin
  obtain ⟨before', after', charsEq', startEq'⟩ := middleWithin
  refine ⟨before' ++ before, after ++ after', ?_, ?_⟩
  · simp [charsEq', charsEq]
  · simp [startEq, startEq', Nat.add_assoc]

theorem take_within (fragment : Fragment) (count : Nat) : (fragment.take count).Within fragment :=
  ⟨[], fragment.chars.drop count, by simp [take], by simp [take]⟩

theorem drop_within (fragment : Fragment) (count : Nat) : (fragment.drop count).Within fragment :=
  ⟨fragment.chars.take count, [], by simp [drop], by simp [drop]⟩

theorem takeWhile_within (fragment : Fragment) (keep : Char → Bool) :
    (fragment.takeWhile keep).Within fragment :=
  ⟨[], fragment.chars.dropWhile keep,
    by simp [takeWhile, List.takeWhile_append_dropWhile], by simp [takeWhile]⟩

theorem dropWhile_within (fragment : Fragment) (discard : Char → Bool) :
    (fragment.dropWhile discard).Within fragment :=
  ⟨fragment.chars.takeWhile discard, [],
    by simp [dropWhile, List.takeWhile_append_dropWhile], by simp [dropWhile]⟩

theorem trimStart_within (fragment : Fragment) : fragment.trimStart.Within fragment :=
  fragment.dropWhile_within isBlank

theorem trimEnd_within (fragment : Fragment) : fragment.trimEnd.Within fragment := by
  obtain ⟨after, charsEq⟩ := trimEndChars_append isBlank fragment.chars
  exact ⟨[], after, by simpa [trimEnd] using charsEq.symm, by simp [trimEnd]⟩

theorem Within.bounds {part whole : Fragment} (within : part.Within whole) :
    whole.start ≤ part.start ∧ part.stop ≤ whole.stop := by
  obtain ⟨before, after, charsEq, startEq⟩ := within
  simp only [stop, charsEq, byteSize_append]
  omega

/-- The span of a part reads the part's text back out of a whole that starts at zero. -/
theorem Within.slice {part whole : Fragment} (within : part.Within whole)
    (atZero : whole.start = 0) : part.span.slice? whole.chars = some part.chars := by
  obtain ⟨before, after, charsEq, startEq⟩ := within
  have startSize : part.start = byteSize before := by omega
  simp only [span, Span.slice?, Span.size, stop, Nat.le_add_right, if_true, charsEq]
  rw [startSize, List.append_assoc, dropBytes?_append]
  simp [takeBytes?_append]

end Fragment

end Gamebook
