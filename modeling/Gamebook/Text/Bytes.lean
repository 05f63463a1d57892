/-!
# Sizes of text

Positions in a scene file are byte offsets into its UTF-8 text, while editors count columns in
UTF-16 units.  Both are measures of a list of characters, and everything about positions in this
library is stated through them.
-/

namespace Gamebook

/-- The number of bytes the text takes in UTF-8. -/
def byteSize : List Char → Nat
  | [] => 0
  | char :: rest => char.utf8Size + byteSize rest

/-- The number of UTF-16 units a character takes: two outside the basic plane. -/
def unitSize (char : Char) : Nat :=
  if char.toNat < 0x10000 then 1 else 2

def unitCount : List Char → Nat
  | [] => 0
  | char :: rest => unitSize char + unitCount rest

@[simp]
theorem byteSize_nil : byteSize [] = 0 := rfl

@[simp]
theorem byteSize_cons (char : Char) (rest : List Char) :
    byteSize (char :: rest) = char.utf8Size + byteSize rest := rfl

@[simp]
theorem byteSize_append (left right : List Char) :
    byteSize (left ++ right) = byteSize left + byteSize right := by
  induction left with
  | nil => simp
  | cons char rest ih => simp [ih, Nat.add_assoc]

@[simp]
theorem unitCount_append (left right : List Char) :
    unitCount (left ++ right) = unitCount left + unitCount right := by
  induction left with
  | nil => simp [unitCount]
  | cons char rest ih => simp [unitCount, ih, Nat.add_assoc]

theorem unitSize_pos (char : Char) : 0 < unitSize char := by
  unfold unitSize
  split <;> decide

theorem byteSize_eq_zero {text : List Char} : byteSize text = 0 ↔ text = [] := by
  cases text with
  | nil => simp
  | cons char rest =>
      have := char.utf8Size_pos
      simp
      omega

/-- The text left after exactly `count` bytes, or nothing when `count` falls inside a character
or past the end. -/
def dropBytes? : Nat → List Char → Option (List Char)
  | 0, text => some text
  | _ + 1, [] => none
  | count + 1, char :: rest =>
      if char.utf8Size ≤ count + 1 then dropBytes? (count + 1 - char.utf8Size) rest else none

/-- The first `count` bytes of the text, or nothing when `count` falls inside a character or past
the end. -/
def takeBytes? : Nat → List Char → Option (List Char)
  | 0, _ => some []
  | _ + 1, [] => none
  | count + 1, char :: rest =>
      if char.utf8Size ≤ count + 1 then
        (takeBytes? (count + 1 - char.utf8Size) rest).map (char :: ·)
      else
        none

theorem dropBytes?_append (before after : List Char) :
    dropBytes? (byteSize before) (before ++ after) = some after := by
  induction before with
  | nil => simp [dropBytes?]
  | cons char rest ih =>
      have positive := char.utf8Size_pos
      obtain ⟨count, countEq⟩ : ∃ count, char.utf8Size + byteSize rest = count + 1 :=
        ⟨char.utf8Size + byteSize rest - 1, by omega⟩
      rw [byteSize_cons, countEq, List.cons_append, dropBytes?, if_pos (by omega),
        show count + 1 - char.utf8Size = byteSize rest by omega, ih]

theorem takeBytes?_append (before after : List Char) :
    takeBytes? (byteSize before) (before ++ after) = some before := by
  induction before with
  | nil => simp [takeBytes?]
  | cons char rest ih =>
      have positive := char.utf8Size_pos
      obtain ⟨count, countEq⟩ : ∃ count, char.utf8Size + byteSize rest = count + 1 :=
        ⟨char.utf8Size + byteSize rest - 1, by omega⟩
      rw [byteSize_cons, countEq, List.cons_append, takeBytes?, if_pos (by omega),
        show count + 1 - char.utf8Size = byteSize rest by omega, ih]
      rfl

/-- UTF-16 units of the characters that end within the first `budget` bytes. -/
def unitsWithin : Nat → List Char → Nat
  | _, [] => 0
  | budget, char :: rest =>
      if char.utf8Size ≤ budget then unitSize char + unitsWithin (budget - char.utf8Size) rest
      else 0

/-- The shortest beginning that takes at least `column` UTF-16 units, or the whole text when it is
shorter. -/
def beforeColumn : Nat → List Char → List Char
  | 0, _ => []
  | _ + 1, [] => []
  | column + 1, char :: rest => char :: beforeColumn (column + 1 - unitSize char) rest

def afterColumn : Nat → List Char → List Char
  | 0, text => text
  | _ + 1, [] => []
  | column + 1, char :: rest => afterColumn (column + 1 - unitSize char) rest

theorem beforeColumn_append_afterColumn (column : Nat) (text : List Char) :
    beforeColumn column text ++ afterColumn column text = text := by
  fun_induction beforeColumn column text <;> simp_all [afterColumn]

end Gamebook
